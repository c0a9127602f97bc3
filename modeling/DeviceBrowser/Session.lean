import DeviceBrowser.Export
import DeviceBrowser.Refresh
import DeviceBrowser.Settings.Store

/-! Sessions: the browser with its worker and its stored settings; when it asks for new snapshots,
and how changes of the view are stored. -/

namespace DeviceBrowser

variable [Zone]

/-- A session. Its preferences are those that requests are made under, and its browser has a copy of
them. Requests are numbered from one on; `requested` and `answered` are the highest numbers sent and
answered. -/
structure Session where
  browser : Browser
  worker : Worker
  store : SettingsStore
  preferences : Preferences
  tabVisible : Bool
  sinceRefresh : Duration
  requested : Nat
  answered : Nat

/-- What came of collecting answers: the report of the last publication, if there was one. -/
abbrev Collected := Option PublishReport

namespace Session

/-- How many answers are collected at once. -/
def answersAtOnce : Nat := 4

/-- How long a visible tab waits before it looks for changes by itself. -/
def refreshInterval : Duration := .ofMillis 2000

/-- A session over stored settings. -/
def start (store : SettingsStore) (elevated : Bool) : Session :=
  { browser := .start store.preferences store.columns store.sorting elevated
    worker := .idle
    store := store
    preferences := store.preferences
    tabVisible := false
    sinceRefresh := .zero
    requested := 0
    answered := 0 }

/-- Whether a request is not answered yet. -/
def isPending (session : Session) : Bool := session.answered < session.requested

/-- Asks the worker for a snapshot. -/
def request (session : Session) (force : Bool) : Session :=
  let request : RefreshRequest :=
    { number := session.requested + 1
      force := force
      preferences := session.preferences
      active := session.browser.stage.edition? }
  { session with
    worker := session.worker.submit request
    requested := session.requested + 1
    sinceRefresh := .zero }

/-- Hears that devices changed: a visible tab that refreshes by itself asks for a snapshot. -/
def notify (session : Session) : Bool × Session :=
  if session.tabVisible && session.preferences.autoRefresh then (true, session.request false)
  else (false, session)

/-- Lets time pass. A visible tab that refreshes by itself asks for a snapshot after a while, if
none is on its way. -/
def tick (session : Session) (elapsed : Duration) : List Nat × Session :=
  let (expired, browser) := session.browser.tick elapsed
  let session :=
    { session with browser, sinceRefresh := session.sinceRefresh.addCapped elapsed }
  let isDue := session.tabVisible && session.preferences.autoRefresh && !session.isPending &&
    session.sinceRefresh.atLeast refreshInterval
  (expired, if isDue then session.request false else session)

/-- Shows or hides the tab; one that comes into view asks for a snapshot. -/
def showTab (session : Session) (visible : Bool) : Session :=
  -- A tab that was visible already has asked before.
  let appears := visible && !session.tabVisible
  let session := { session with tabVisible := visible }
  if appears then session.request false else session

/-- Takes an answer in: a snapshot is published. -/
def accept (session : Session) (now : FileTime) (answer : RefreshAnswer) : Collected × Session :=
  let session := { session with answered := max session.answered answer.number }
  match answer with
  | .built _ snapshot _ =>
    let (browser, report) := session.browser.publish snapshot now
    (some report, { session with browser })
  | .unchanged _ => (none, session)

/-- Takes answers in, one after the other. -/
def acceptAll (session : Session) (now : FileTime) : List RefreshAnswer → Collected × Session
  | [] => (none, session)
  | answer :: rest =>
    let (report, session) := session.accept now answer
    let (later, session) := acceptAll session now rest
    (later.or report, session)

/-- Collects the first answers of the worker, `count` of them at most. -/
def collectUpTo (session : Session) (count : Nat) (now : FileTime) : Collected × Session :=
  -- What is not taken waits for the next time.
  let answers := session.worker.answers
  { session with worker := { session.worker with answers := answers.drop count } }.acceptAll
    now (answers.take count)

/-- Collects answers of the worker, a few at once. -/
def collect (session : Session) (now : FileTime) : Collected × Session :=
  session.collectUpTo answersAtOnce now

/-- Looks for another text; says whether it is another. -/
def lookFor (session : Session) (text : String) : Bool × Session :=
  match session.browser.lookFor? text with
  | some browser => (true, { session with browser })
  | none => (false, session)

/-- Stores a setting and writes the store. That writing fails is not seen. -/
def save (session : Session) (name : String) (setting : Setting) : Session :=
  { session with store := (session.store.put name setting).flushed }

/-- Lists by another sorting and stores it. -/
def sortBy (session : Session) (sorting : Sorting) : Session :=
  { session with browser := session.browser.sortBy sorting }.save Settings.sortName
    (.text sorting.setting)

/-- Shows or hides a column and stores the columns; says whether anything changed. -/
def showColumn (session : Session) (cls : PropertyClass) (visible : Bool) : Bool × Session :=
  match session.browser.showColumn? cls visible with
  | some browser =>
    (true, { session with browser }.save Settings.columnsName
      (.text browser.listing.columns.setting))
  | none => (false, session)

/-- Puts preferences into effect, in the browser as well. -/
def prefer (session : Session) (preferences : Preferences) : Session :=
  { session with preferences, browser := { session.browser with preferences } }

/-- Matches the nodes on display anew. -/
def redraw (session : Session) : Session :=
  { session with browser := session.browser.refilter }

/-- Sets a switch, stores it, and does what the switch asks for. -/
def setToggle (session : Session) (toggle : Toggle) (on : Bool) : Session :=
  if session.preferences.isOn toggle = on then session
  else
    let session :=
      (session.save (Settings.toggleName toggle) (Settings.flagSetting on)).prefer
        (session.preferences.set toggle on)
    match toggle.effect with
    | .rebuild => session.request true
    | .redraw => session.redraw
    | .nothing => session

/-- Flips a switch. -/
def flip (session : Session) (toggle : Toggle) : Session :=
  session.setToggle toggle (!session.preferences.isOn toggle)

/-- Stores a setting without putting it into effect. -/
def put (session : Session) (name : String) (setting : Setting) : Session :=
  { session with store := session.store.put name setting }

/-- Puts the stored preferences into effect: with a new snapshot if they may ask for another
tree. -/
def reload (session : Session) : Session :=
  -- Preferences that are stored may have been edited since they were read.
  let next := session.store.preferences
  if next = session.preferences then session
  else if next.asksOtherTree session.preferences then (session.prefer next).request true
  else (session.prefer next).redraw

/-- Does what came of a menu command: flips a switch, asks for a snapshot. -/
def follow (session : Session) (outcome : Outcome) : Session :=
  -- The switch is flipped first, so that the request is made under the new preferences.
  let session := match outcome.toggle with
    | some toggle => session.flip toggle
    | none => session
  if outcome.republish then session.request true else session

/-- Executes a command of a menu on a system. -/
def execute {σ : Type} (session : Session) (menu : Menu) (actions : Actions σ) (state : σ)
    (command : Command) : Outcome × σ × Session :=
  let (outcome, state) := menu.execute actions state command
  (outcome, state, session.follow outcome)

/-- Lets the worker take up to `count` waiting requests as one and answer it. The list holds the
force of the request, if there was one. -/
def work (session : Session) (source : Source) (count : Nat) : List Bool × Session × Source :=
  let worker := session.worker.receive count
  let (answering, source) := worker.respond source
  ((worker.working.map (·.force)).toList, { session with worker := answering }, source)

/-- How many requests wait for the worker. -/
def waiting (session : Session) : Nat := session.worker.queue.length

end Session

/-- What an exchange with the worker brought: the forces of the requests it answered, and the
reports of the snapshots published. -/
structure Exchange where
  forces : List Bool
  reports : List PublishReport

/-- One exchange after another. -/
def Exchange.append (first second : Exchange) : Exchange :=
  ⟨first.forces ++ second.forces, first.reports ++ second.reports⟩

namespace Session

/-- One exchange: the worker answers up to `count` waiting requests as one, and the answer is
collected. -/
def exchange (session : Session) (source : Source) (now : FileTime) (count : Nat) :
    Exchange × Session × Source :=
  let (forces, session, source) := session.work source count
  let (report, session) := session.collect now
  (⟨forces, report.toList⟩, session, source)

/-- Lets the worker answer all that waits: the first request by itself, as it is taken at once, and
then the others as one. -/
def settle (session : Session) (source : Source) (now : FileTime) :
    Exchange × Session × Source :=
  let (first, session, source) := session.exchange source now 1
  let (second, session, source) := session.exchange source now session.waiting
  (first.append second, session, source)

end Session

end DeviceBrowser

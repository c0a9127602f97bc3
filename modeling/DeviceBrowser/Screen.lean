import DeviceBrowser.Screen.Row
import DeviceBrowser.Session

/-! The screen: a session with the rows of its table, the focused device, the search field, the open
menu and the notice of what was done last. -/

namespace DeviceBrowser

open Text

variable [Zone]

/-- The state of the screen. Devices are collapsed and focused by checksum, so that both outlast a
new snapshot. -/
structure Screen where
  session : Session
  rows : List Row
  collapsed : List UInt32
  focused : Option UInt32
  searchText : String
  lastReport : Option PublishReport
  notice : Option String
  clipboard : Option String
  menu : Option Menu
  dark : Bool
  showsAbout : Bool
  showsDetails : Bool
  sinceTick : Duration

namespace Screen

/-- The time between two ticks. -/
def tickInterval : Duration := .ofMillis 250

/-- The screen of a session whose tab comes into view. -/
def ofSession (session : Session) : Screen where
  session := session.showTab true
  rows := []
  collapsed := []
  focused := none
  searchText := ""
  lastReport := none
  notice := none
  clipboard := none
  menu := none
  dark := true
  showsAbout := false
  showsDetails := true
  sinceTick := .zero

/-- The browser of the session. -/
def browser (screen : Screen) : Browser := screen.session.browser

/-- Whether a snapshot is on its way. -/
def isRefreshing (screen : Screen) : Bool := screen.session.isPending

/-- Whether a highlight is running. -/
def hasHighlights (screen : Screen) : Bool := screen.browser.stage.highlights.size != 0

/-- Lists the rows anew. -/
def relist (screen : Screen) : Screen :=
  { screen with rows := screen.browser.rows screen.collapsed }

/-- Ticks a session a number of times; says whether a highlight ran out. -/
def tickTimes (session : Session) : Nat → Bool × Session
  | 0 => (false, session)
  | times + 1 =>
    let (expired, session) := session.tick tickInterval
    let (later, session) := tickTimes session times
    (!expired.isEmpty || later, session)

/-- Collects answers of the worker; when a snapshot was published, the rows are listed anew. -/
def collect (screen : Screen) (now : FileTime) : Collected × Screen :=
  -- Without a publication the rows still belong to the snapshot on display.
  let (report, session) := screen.session.collect now
  let screen := { screen with session }
  match report with
  | some report => (some report, { screen with lastReport := some report }.relist)
  | none => (none, screen)

/-- Moves the screen on in time: answers are collected, and a tick is made for each interval that is
full. Says whether anything is to be painted anew. -/
def advance (screen : Screen) (now : FileTime) (elapsed : Duration) : Bool × Screen :=
  -- What is left of an interval counts for the next one.
  let (report, screen) := screen.collect now
  let total := screen.sinceTick.nanos + elapsed.nanos
  let (expired, session) := tickTimes screen.session (total / tickInterval.nanos)
  (report.isSome || expired,
    { screen with session, sinceTick := ⟨total % tickInterval.nanos⟩ })

/-- The checksum of a node on display. -/
def hash? (screen : Screen) (node : Nat) : Option UInt32 :=
  screen.browser.snapshot?.bind (·.hash? node)

/-- The collapsed checksums with one added or taken out. -/
def toggleMember (hashes : List UInt32) (hash : UInt32) : List UInt32 :=
  if hashes.contains hash then hashes.filter (· != hash) else hash :: hashes

/-- Collapses or expands the row at a position, if it has children. -/
def toggleRow (screen : Screen) (position : Nat) : Screen :=
  match screen.rows[position]? with
  | some row =>
    if row.hasChildren then
      match screen.hash? row.node with
      | some hash => { screen with collapsed := toggleMember screen.collapsed hash }.relist
      | none => screen
    else screen
  | none => screen

/-- The screen with the browser changed. -/
def withBrowser (screen : Screen) (change : Browser → Browser) : Screen :=
  { screen with session := { screen.session with browser := change screen.browser } }

/-- Clicks the row at a position: it is selected alone, or with the modifier key it is added to the
selection or taken out. Its device gets the focus. -/
def click (screen : Screen) (position : Nat) (extend : Bool) : Screen :=
  match screen.rows[position]? with
  | some row =>
    { screen.withBrowser fun browser =>
        if extend then browser.select row.node (!browser.isSelected row.node)
        else browser.selectOnly row.node with
      focused := screen.hash? row.node }
  | none => screen

/-- Empties the selection and takes the focus away. -/
def clearSelection (screen : Screen) : Screen :=
  { screen.withBrowser (·.clearSelection) with focused := none }

/-- The node of the focused device. -/
def focusedNode (screen : Screen) : Option Nat := do
  (← screen.browser.snapshot?).lookup (← screen.focused)

/-- The focused device. -/
def focusedDevice (screen : Screen) : Option Device :=
  screen.focusedNode.bind screen.browser.device?

/-- Searches for the text of the search field. -/
def search (screen : Screen) : Screen :=
  let (changed, session) := screen.session.lookFor screen.searchText
  if changed then { screen with session }.relist else screen

/-- Puts a text into the search field and searches for it. -/
def searchFor (screen : Screen) (text : String) : Screen :=
  { screen with searchText := text }.search

/-- Clicks the header of a column. -/
def clickHeader (screen : Screen) (column : PropertyClass) : Screen :=
  { screen with
    session := screen.session.sortBy (screen.browser.listing.sorting.clicked column) }.relist

/-- Shows or hides a column. -/
def showColumn (screen : Screen) (cls : PropertyClass) (visible : Bool) : Screen :=
  let (changed, session) := screen.session.showColumn cls visible
  if changed then { screen with session }.relist else screen

/-- Flips a switch. -/
def flip (screen : Screen) (toggle : Toggle) : Screen :=
  { screen with session := screen.session.flip toggle }.relist

/-- Asks for a new snapshot. -/
def refresh (screen : Screen) : Screen :=
  { screen with session := screen.session.request true }

/-- The context menu for a node and a column. -/
def menuFor (screen : Screen) (node : Nat) (column : Option PropertyClass) : Option Menu :=
  screen.browser.menu? (some node) column

/-- Opens the context menu. -/
def openMenu (screen : Screen) (node : Nat) (column : Option PropertyClass) : Screen :=
  { screen with menu := screen.menuFor node column }

/-- A right click on the row at a position: its node is selected alone unless it is selected, and
the menu for it opens. -/
def rightClick (screen : Screen) (position : Nat) (column : Option PropertyClass) : Screen :=
  match screen.rows[position]? with
  | some row =>
    let selecting :=
      if screen.browser.isSelected row.node then screen else screen.click position false
    selecting.openMenu row.node column
  | none => screen

/-- Closes the context menu. -/
def closeMenu (screen : Screen) : Screen := { screen with menu := none }

/-- The words for a failed action. -/
def failureText (failure : ActionFailure) : String :=
  (if failure.subject.isEmpty then "Action failed" else failure.subject) ++ ": " ++
    failure.error.message

/-- The notice of failed actions: the first in words, and how many more there are. -/
def failureNotice : List ActionFailure → Option String
  | [] => none
  | [only] => some (failureText only)
  | first :: rest => some (failureText first ++ " (and " ++ decimal rest.length ++ " more)")

/-- Executes a command of a menu. -/
def runCommand (screen : Screen) (menu : Menu) (command : Command) : Screen :=
  -- Nothing but the clipboard is at hand, and a copy made earlier stays there.
  let (outcome, copied, session) := screen.session.execute menu .clipboardOnly none command
  let screen :=
    { screen with session, clipboard := copied.or screen.clipboard,
                  notice := failureNotice outcome.failures }
  if outcome.toggle.isSome then screen.relist else screen

/-- Executes a command of the open menu, which closes. -/
def runOpenMenu (screen : Screen) (command : Command) : Screen :=
  match screen.menu with
  | some menu => screen.closeMenu.runCommand menu command
  | none => screen

/-- Exports the listed devices to a file, which a notice tells. -/
def exportTo (screen : Screen) (path : String) (writable : Bool) :
    Except Fault (Nat × String) × Screen :=
  match screen.browser.exportTo writable with
  | .ok (rows, table) =>
    (.ok (rows, table),
      { screen with
        notice := some ("Exported " ++ decimal rows ++ " devices to " ++ path) })
  | .error fault => (.error fault, screen)

/-- One exchange with the worker: it answers up to `count` waiting requests as one, and the answer
is collected. -/
def exchange (screen : Screen) (source : Source) (now : FileTime) (count : Nat) :
    Exchange × Screen × Source :=
  let (forces, session, source) := screen.session.work source count
  let (report, screen) := { screen with session }.collect now
  (⟨forces, report.toList⟩, screen, source)

/-- Lets the worker answer all that waits: the first request by itself, as it is taken at once, and
then the others as one. -/
def settle (screen : Screen) (source : Source) (now : FileTime) : Exchange × Screen × Source :=
  let (first, screen, source) := screen.exchange source now 1
  let (second, screen, source) := screen.exchange source now screen.session.waiting
  (first.append second, screen, source)

end Screen

end DeviceBrowser

import DeviceBrowser.Proofs.Screen.Run

/-! The rows of the table are never stale: after any run of a screen they are those that listing
them anew would give, and the node of each can be read. -/

namespace DeviceBrowser.Screen

section AnyZone

variable {zone : Zone}

/-- A screen is sound when its session is, and its rows are those of its browser. -/
structure Sound [Zone] (screen : Screen) : Prop where
  session : screen.session.Sound
  rows : screen.rows = screen.browser.rows screen.collapsed

/-- Before anything is on display there is nothing to list. -/
theorem rows_start (preferences : Preferences) (columns : Columns) (sorting : Sorting)
    (elevated : Bool) (collapsed : List UInt32) :
    (Browser.start preferences columns sorting elevated).rows collapsed = [] := by
  -- There is no node to start from.
  rw [Browser.rows]
  split
  · rfl
  · rfl

/-- Listing the rows anew makes a screen sound. -/
theorem sound_relist {screen : Screen} (session : screen.session.Sound) : screen.relist.Sound :=
  ⟨session, rfl⟩

section Steps

variable {screen : Screen}

/-- Another sound session with the same rows keeps a screen sound. -/
theorem Sound.withSession (sound : screen.Sound) {session : Session} (other : session.Sound)
    (same : session.browser.rows screen.collapsed = screen.browser.rows screen.collapsed) :
    Sound { screen with session } :=
  -- The rows in hand are still those that the browser gives.
  ⟨other, sound.rows.trans same.symm⟩

/-- Another sound browser with the same rows keeps a screen sound. -/
theorem Sound.withBrowser (sound : screen.Sound) (change : Browser → Browser) {text : String}
    (other : (change screen.browser).Sound text)
    (same : (change screen.browser).rows screen.collapsed =
      screen.browser.rows screen.collapsed) : (screen.withBrowser change).Sound :=
  sound.withSession (sound.session.withBrowser other) same

/-- Collecting answers keeps a screen sound: without a publication the browser stays as it is. -/
theorem Sound.collect (sound : screen.Sound) (now : FileTime) :
    (screen.collect now).2.Sound := by
  have collected := sound.session.collect now
  rw [Screen.collect]
  simp only
  split
  · exact sound_relist collected
  · -- No report means that no snapshot was published.
    rename_i silent
    apply sound.withSession collected
    rw [Session.collect, Session.collectUpTo, Session.browser_acceptAll silent]
    rfl

/-- Ticks keep a session sound and leave its rows. -/
theorem tickTimes_effect {session : Session} (sound : session.Sound) (times : Nat)
    (collapsed : List UInt32) :
    (tickTimes session times).2.Sound ∧
      (tickTimes session times).2.browser.rows collapsed = session.browser.rows collapsed := by
  -- Each tick changes highlights only.
  induction times generalizing session with
  | zero => exact ⟨sound, rfl⟩
  | succ times ih =>
    obtain ⟨later, same⟩ := ih (sound.tick tickInterval)
    refine ⟨later, same.trans ?_⟩
    rw [Session.browser_tick, Browser.rows_tick]

/-- Moving on in time keeps a screen sound. -/
theorem Sound.advance (sound : screen.Sound) (now : FileTime) (elapsed : Duration) :
    (screen.advance now elapsed).2.Sound := by
  -- Answers are collected first, and the ticks that follow leave the rows.
  have collected := sound.collect now
  obtain ⟨ticked, same⟩ := tickTimes_effect collected.session
    (((screen.collect now).2.sinceTick.nanos + elapsed.nanos) / tickInterval.nanos)
    (screen.collect now).2.collapsed
  have moved := collected.withSession ticked same
  exact ⟨moved.session, moved.rows⟩

/-- Collapsing or expanding a row keeps a screen sound. -/
theorem Sound.toggleRow (sound : screen.Sound) (position : Nat) :
    (screen.toggleRow position).Sound := by
  -- Only a row with children, whose node is on display, is collapsed or expanded.
  rw [Screen.toggleRow]
  split
  · split
    · split
      · exact sound_relist sound.session
      · exact sound
    · exact sound
  · exact sound

/-- Clicking a row keeps a screen sound: what is selected is no matter of the rows. -/
theorem Sound.click (sound : screen.Sound) (position : Nat) (extend : Bool) :
    (screen.click position extend).Sound := by
  -- A row that is there is selected alone or along with others.
  obtain ⟨text, browser⟩ := sound.session.browser
  rw [Screen.click]
  split
  · rename_i row _
    cases extend with
    | true =>
      have clicked := sound.withBrowser
        (fun browser => browser.select row.node (!browser.isSelected row.node))
        (browser.select row.node _) (Browser.rows_select _ _ _ _)
      exact ⟨clicked.session, clicked.rows⟩
    | false =>
      have clicked := sound.withBrowser (·.selectOnly row.node)
        (browser.clearSelection.select row.node true) (by simp [Browser.selectOnly])
      exact ⟨clicked.session, clicked.rows⟩
  · exact sound

/-- Emptying the selection keeps a screen sound. -/
theorem Sound.clearSelection (sound : screen.Sound) : screen.clearSelection.Sound := by
  -- The focus is cleared as well, which is no matter of the rows.
  obtain ⟨text, browser⟩ := sound.session.browser
  have cleared := sound.withBrowser (·.clearSelection) browser.clearSelection
    (Browser.rows_clearSelection _ _)
  exact ⟨cleared.session, cleared.rows⟩

/-- Searching keeps a screen sound. -/
theorem Sound.search (sound : screen.Sound) : screen.search.Sound := by
  -- The rows are listed anew if the text is another one than before.
  have searched := sound.session.lookFor screen.searchText
  rw [Screen.search]
  simp only
  split
  · exact sound_relist searched
  · exact sound

/-- Clicking a header keeps a screen sound. -/
theorem Sound.clickHeader (sound : screen.Sound) (column : PropertyClass) :
    (screen.clickHeader column).Sound :=
  sound_relist (sound.session.sortBy _)

/-- Showing or hiding a column keeps a screen sound. -/
theorem Sound.showColumn (sound : screen.Sound) (cls : PropertyClass) (visible : Bool) :
    (screen.showColumn cls visible).Sound := by
  -- Without a change there is nothing to list anew.
  have shown := sound.session.showColumn cls visible
  rw [Screen.showColumn]
  simp only
  split
  · exact sound_relist shown
  · exact sound

/-- Flipping a switch keeps a screen sound. -/
theorem Sound.flip (sound : screen.Sound) (toggle : Toggle) : (screen.flip toggle).Sound :=
  sound_relist (sound.session.setToggle toggle _)

/-- Asking for a snapshot keeps a screen sound. -/
theorem Sound.refresh (sound : screen.Sound) : screen.refresh.Sound :=
  ⟨sound.session.request true, sound.rows⟩

/-- Executing a command of a menu keeps a screen sound: one that flips no switch leaves the
browser. -/
theorem Sound.runCommand (sound : screen.Sound) (menu : Menu) (command : Command) :
    (screen.runCommand menu command).Sound := by
  -- The rows are listed anew after a switch only, and without one at most a request is made.
  have followed : (screen.session.execute menu .clipboardOnly none command).2.2.Sound :=
    sound.session.follow _
  rw [Screen.runCommand]
  simp only
  split
  · exact sound_relist followed
  · rename_i flipless
    have kept : (screen.session.execute menu .clipboardOnly none command).2.2.browser =
        screen.browser :=
      screen.session.browser_follow (Option.not_isSome_iff_eq_none.mp flipless)
    refine ⟨followed, sound.rows.trans ?_⟩
    exact congrArg (Browser.rows · screen.collapsed) kept.symm

/-- Executing a command of the open menu keeps a screen sound. -/
theorem Sound.runOpenMenu (sound : screen.Sound) (command : Command) :
    (screen.runOpenMenu command).Sound := by
  -- The menu closes before its command is carried out; without a menu nothing is.
  have closed : screen.closeMenu.Sound := ⟨sound.session, sound.rows⟩
  rw [Screen.runOpenMenu]
  split
  · exact closed.runCommand _ command
  · exact sound

/-- Exporting keeps a screen sound. -/
theorem Sound.exportTo (sound : screen.Sound) (path : String) (writable : Bool) :
    (screen.exportTo path writable).2.Sound := by
  -- Only the notice may change.
  rw [Screen.exportTo]
  split
  · exact ⟨sound.session, sound.rows⟩
  · exact sound

/-- Every step keeps a screen sound. -/
theorem Sound.step (sound : screen.Sound) {next : Screen} (step : Step screen next) :
    next.Sound := by
  -- Answers that arrive wait behind the others; edits and menus do not touch the rows.
  cases step with
  | work worker built waiting =>
    refine ⟨⟨sound.session.browser, ?_⟩, sound.rows⟩
    intro answer waits
    -- An answer that waits did so before, or the worker has just built it.
    rw [waiting] at waits
    rcases List.mem_append.mp waits with earlier | new
    · exact sound.session.built answer earlier
    · exact built answer new
  | advance now elapsed => exact sound.advance now elapsed
  | toggleRow position => exact sound.toggleRow position
  | click position extend => exact sound.click position extend
  | clearSelection => exact sound.clearSelection
  | edit searchText => exact ⟨sound.session, sound.rows⟩
  | search => exact sound.search
  | clickHeader column => exact sound.clickHeader column
  | showColumn cls visible => exact sound.showColumn cls visible
  | flip toggle => exact sound.flip toggle
  | refresh => exact sound.refresh
  | openMenu node column => exact ⟨sound.session, sound.rows⟩
  | closeMenu => exact ⟨sound.session, sound.rows⟩
  | runCommand menu command => exact sound.runCommand menu command
  | runOpenMenu command => exact sound.runOpenMenu command
  | exportTo path writable => exact sound.exportTo path writable

end Steps

/-- Every screen that a run leads to is sound. -/
theorem Reached.sound {screen : Screen} (reached : Reached screen) : screen.Sound := by
  -- By induction on the run, which begins with the tab coming into view.
  induction reached with
  | start store elevated =>
    exact ⟨(Session.sound_start store elevated).showTab true, (rows_start _ _ _ _ _).symm⟩
  | step _ step ih => exact ih.step step

/-- The rows of a screen are current: listing them anew would give the same, and so would a walk of
any greater number of steps, so that none is cut off. The node of each row can be read on the
display, and so can every node that is met when they are listed. -/
structure Current (screen : Screen) : Prop where
  rows : screen.rows = screen.browser.rows screen.collapsed
  ended : ∀ snapshot, screen.browser.snapshot? = some snapshot →
    screen.browser.listing.isFlat = false → ∀ steps ≥ snapshot.size,
      screen.browser.rowsFrom screen.collapsed steps ((screen.browser.children none).map (·, 0)) =
        screen.rows
  held : ∀ row ∈ screen.rows, screen.browser.Holds row.node
  below : ∀ parent, ∀ child ∈ screen.browser.children parent, screen.browser.Holds child

/-- After any run the rows of a screen are current. -/
theorem Reached.current {screen : Screen} (reached : Reached screen) : screen.Current := by
  have sound := reached.sound
  obtain ⟨text, browser⟩ := sound.session.browser
  constructor
  · exact sound.rows
  · -- A built snapshot lists each node once, which bounds the walk.
    intro snapshot found tree steps enough
    rw [sound.rows]
    exact Browser.rows_ended (browser.built snapshot found).listed found tree enough
  · intro row member
    rw [sound.rows] at member
    exact browser.holds_rows member
  · intro parent child member
    exact browser.holds_children member

end AnyZone

/-- The answer that brings a device with two others below it, one of which has a fourth below. -/
def hubAnswer : RefreshAnswer :=
  RefreshAnswer.ofRequest ⟨1, false, Preferences.standard.set .showDisconnected true, none⟩
    ⟨1, Snapshot.hub⟩

/-- The screen that displays them while a text is looked for. -/
def hubScreen : Screen :=
  let started := ofSession (.start (.inMemory .empty) false)
  let worker := ⟨[], none, started.session.worker.answers ++ [hubAnswer]⟩
  let displayed := (advance { started with session := { started.session with worker } } default
    .zero).2
  search { displayed with searchText := "p" }

theorem reached_hubScreen : Reached hubScreen := by
  -- The answer arrives and is displayed, and then the text is looked for.
  have brings : ∀ arrived ∈ [hubAnswer], arrived.Built := by
    intro arrived isFirst
    cases List.mem_singleton.mp isFirst
    exact RefreshAnswer.built_ofRequest _ Snapshot.hub_grown
  have started := Reached.start (.inMemory .empty) false
  have answered := started.step (.work _ ⟨[], none, _⟩ brings rfl)
  have displayed := answered.step (.advance _ default .zero)
  exact (displayed.step (.edit _ "p")).step (.search _)

/-- The answer that brings the upper device with only one of those below it. -/
def padAnswer : RefreshAnswer :=
  RefreshAnswer.ofRequest ⟨2, true, Preferences.standard.set .showDisconnected true, none⟩
    ⟨2, Snapshot.hubless⟩

/-- The screen after a right click on the device between two others, which is then collapsed. -/
def hubCollapsed : Screen := (hubScreen.rightClick 1 (some .name)).toggleRow 1

/-- The screen that displays what is left. -/
def padScreen : Screen :=
  let worker := ⟨[], none, hubCollapsed.session.worker.answers ++ [padAnswer]⟩
  (advance { hubCollapsed with session := { hubCollapsed.session with worker } } default .zero).2

theorem reached_padScreen : Reached padScreen := by
  -- The right click and the collapsing come first, and the smaller tree arrives after them.
  have brings : ∀ arrived ∈ [padAnswer], arrived.Built := by
    intro arrived isFirst
    cases List.mem_singleton.mp isFirst
    exact RefreshAnswer.built_ofRequest _ Snapshot.hubless_grown
  have collapsed : Reached hubCollapsed :=
    (reached_hubScreen.rightClick 1 (some .name)).step (.toggleRow _ 1)
  exact (collapsed.step (.work _ ⟨[], none, _⟩ brings rfl)).step (.advance _ default .zero)

/-- Of four devices one is hidden below a collapsed one, and two are gone after the next answer. The
rows that are left are current, although the text is still looked for. -/
theorem current_padScreen : hubScreen.rows.length = 4 ∧ hubCollapsed.rows.length = 3 ∧
    Reached padScreen ∧ padScreen.rows = [⟨0, 0, true, true⟩, ⟨1, 1, false, false⟩] ∧
    padScreen.Current :=
  -- The rows are counted on the way, and what is said of any run is said of this one.
  ⟨by decide +kernel, by decide +kernel, reached_padScreen, by decide +kernel,
    reached_padScreen.current⟩

end DeviceBrowser.Screen

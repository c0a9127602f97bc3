import DeviceBrowser.Proofs.Browser.Layout
import DeviceBrowser.Proofs.Session.Steps

/-! What a session has in effect is what its store holds, after each of its operations: another
session over the same store starts with the same preferences, columns and sorting. -/

namespace DeviceBrowser.Session

section AnyZone

variable {zone : Zone}

/-- Edits stored settings one after the other, and puts the preferences among them into effect. -/
def edit [Zone] (session : Session) (edits : List (String × Setting)) : Session :=
  (edits.foldl (fun session edit => session.put edit.1 edit.2) session).reload

/-- One operation of a session, or anything that its worker and others at the place of its settings
do meanwhile. The columns and the sorting are not edited but by their own operations. -/
inductive Step [Zone] : Session → Session → Prop
  | work (session : Session) (worker : Worker) : Step session { session with worker }
  | disturb (session : Session) (change : Place → Place) :
      Step session { session with store := session.store.disturb change }
  | collect (session : Session) (count : Nat) (now : FileTime) :
      Step session (session.collectUpTo count now).2
  | request (session : Session) (force : Bool) : Step session (session.request force)
  | notify (session : Session) : Step session session.notify.2
  | tick (session : Session) (elapsed : Duration) : Step session (session.tick elapsed).2
  | showTab (session : Session) (visible : Bool) : Step session (session.showTab visible)
  | lookFor (session : Session) (text : String) : Step session (session.lookFor text).2
  | sortBy (session : Session) (sorting : Sorting) : Step session (session.sortBy sorting)
  | showColumn (session : Session) (cls : PropertyClass) (visible : Bool) :
      Step session (session.showColumn cls visible).2
  | setToggle (session : Session) (toggle : Toggle) (on : Bool) :
      Step session (session.setToggle toggle on)
  | flip (session : Session) (toggle : Toggle) : Step session (session.flip toggle)
  | execute (session : Session) {σ : Type} (menu : Menu) (actions : Actions σ) (state : σ)
      (command : Command) : Step session (session.execute menu actions state command).2.2
  | edit (session : Session) (edits : List (String × Setting))
      (elsewhere : ∀ edit ∈ edits, edit.1 ≠ Settings.columnsName ∧ edit.1 ≠ Settings.sortName) :
      Step session (session.edit edits)

/-- The sessions that runs lead to from one that has just started, over any store. -/
inductive Reached [Zone] : Session → Prop
  | start (store : SettingsStore) (elevated : Bool) : Reached (start store elevated)
  | step {session next : Session} (reached : Reached session) (step : Step session next) :
      Reached next

/-- What a session has in effect is what its store holds. -/
structure Stored (session : Session) : Prop where
  preferences : session.preferences = session.store.preferences
  layout : session.browser.layout = session.store.layout

/-- A session starts with what its store holds. -/
theorem stored_start (store : SettingsStore) (elevated : Bool) : (start store elevated).Stored :=
  ⟨rfl, rfl⟩

section Steps

variable {session : Session}

/-- The preferences of the browser are those of the session. -/
theorem Stored.browser (stored : session.Stored) :
    session.browser.preferences = session.preferences :=
  -- Both are what the store holds.
  (congrArg Layout.preferences stored.layout).trans stored.preferences.symm

/-- A browser with the same layout keeps what is in effect as it is stored. -/
theorem Stored.withBrowser (stored : session.Stored) {browser : Browser}
    (same : browser.layout = session.browser.layout) : Stored { session with browser } :=
  -- The store and the session's own preferences are not touched.
  ⟨stored.preferences, same.trans stored.layout⟩

/-- A request keeps what is in effect as it is stored. -/
theorem Stored.request (stored : session.Stored) (force : Bool) : (session.request force).Stored :=
  ⟨stored.preferences, stored.layout⟩

/-- Matching anew keeps what is in effect as it is stored. -/
theorem Stored.redraw (stored : session.Stored) : session.redraw.Stored :=
  stored.withBrowser session.browser.layout_refilter

/-- Hearing of a change keeps what is in effect as it is stored. -/
theorem Stored.notify (stored : session.Stored) : session.notify.2.Stored := by
  -- A change is answered by a request or by nothing.
  apply notify_cases stored
  intro next same
  exact same.request false

/-- Time passing keeps what is in effect as it is stored. -/
theorem Stored.tick (stored : session.Stored) (elapsed : Duration) :
    (session.tick elapsed).2.Stored := by
  -- Time leaves the layout, and so does the request that may follow.
  apply tick_cases
  · exact ⟨stored.preferences, (session.browser.layout_tick elapsed).trans stored.layout⟩
  · intro next passed
    exact passed.request false

/-- Showing or hiding the tab keeps what is in effect as it is stored. -/
theorem Stored.showTab (stored : session.Stored) (visible : Bool) :
    (session.showTab visible).Stored := by
  -- The flag of the tab is not stored, and neither is a request.
  apply showTab_cases
  · exact ⟨stored.preferences, stored.layout⟩
  · intro next shown
    exact shown.request false

/-- Taking in an answer keeps what is in effect as it is stored. -/
theorem Stored.accept (stored : session.Stored) (now : FileTime) (answer : RefreshAnswer) :
    (session.accept now answer).2.Stored := by
  -- A publication leaves the layout, whatever it brings.
  cases answer with
  | built number snapshot forced =>
    exact ⟨stored.preferences, (session.browser.layout_publish snapshot now).trans stored.layout⟩
  | unchanged number => exact ⟨stored.preferences, stored.layout⟩

/-- Taking in answers keeps what is in effect as it is stored. -/
theorem Stored.acceptAll (stored : session.Stored) (now : FileTime) (answers : List RefreshAnswer) :
    (session.acceptAll now answers).2.Stored := by
  -- By induction on the answers.
  induction answers generalizing session with
  | nil => exact stored
  | cons answer rest ih => exact ih (stored.accept now answer)

/-- Looking for a text keeps what is in effect as it is stored. -/
theorem Stored.lookFor (stored : session.Stored) (text : String) :
    (session.lookFor text).2.Stored := by
  -- Looking for a text leaves the layout, as the text is not stored.
  rw [Session.lookFor]
  cases found : session.browser.lookFor? text with
  | none => exact stored
  | some next => exact stored.withBrowser (Browser.layout_lookFor? found)

/-- A sorting is stored as it takes effect. -/
theorem Stored.sortBy (stored : session.Stored) (sorting : Sorting) :
    (session.sortBy sorting).Stored := by
  -- Should writing fail, the sorting is stored all the same, in memory.
  have after : (session.sortBy sorting).store.layout = { session.store.layout with sorting } :=
    (SettingsStore.layout_flushed _).trans (session.store.layout_put_sorting sorting)
  refine ⟨stored.preferences.trans (congrArg Layout.preferences after).symm, ?_⟩
  rw [after, ← stored.layout]
  exact session.browser.layout_sortBy sorting

/-- A column that is shown or hidden is stored as it takes effect. -/
theorem Stored.showColumn (stored : session.Stored) (cls : PropertyClass) (visible : Bool) :
    (session.showColumn cls visible).2.Stored := by
  rw [Session.showColumn]
  cases changed : session.browser.showColumn? cls visible with
  | none => exact stored
  | some next =>
    -- The columns in effect were read from the store, and so are sound.
    obtain ⟨layout, change⟩ := Browser.layout_showColumn? changed
    have columns : session.browser.listing.columns = session.store.columns :=
      congrArg Layout.columns stored.layout
    have sound : next.listing.columns.Sound :=
      (columns ▸ session.store.sound_columns : session.browser.listing.columns.Sound).change? change
    have after := (SettingsStore.layout_flushed _).trans (session.store.layout_put_columns sound)
    rw [stored.layout] at layout
    exact ⟨stored.preferences.trans (congrArg Layout.preferences after).symm,
      layout.trans after.symm⟩

/-- A switch that is stored is in effect once the preferences with it are. -/
theorem Stored.save_prefer (stored : session.Stored) (toggle : Toggle) (on : Bool) :
    ((session.save (Settings.toggleName toggle) (Settings.flagSetting on)).prefer
      (session.preferences.set toggle on)).Stored := by
  -- The stored preferences and those in effect were equal, and the same switch is set in both.
  have after := (SettingsStore.layout_flushed _).trans (session.store.layout_put_toggle toggle on)
  have preferences : session.preferences.set toggle on = session.store.preferences.set toggle on :=
    congrArg (·.set toggle on) stored.preferences
  refine ⟨preferences.trans (congrArg Layout.preferences after).symm, Eq.trans ?_ after.symm⟩
  rw [← stored.layout, ← preferences]
  rfl

/-- A switch is stored as it takes effect. -/
theorem Stored.setToggle (stored : session.Stored) (toggle : Toggle) (on : Bool) :
    (session.setToggle toggle on).Stored := by
  -- A switch that is as it should be is not stored; any other is stored before the rest follows.
  have saved := stored.save_prefer toggle on
  apply setToggle_cases
  · exact stored
  · intro _
    exact saved.request true
  · intro _
    exact saved.redraw
  · intro _
    exact saved

/-- Following up on a menu command keeps what is in effect as it is stored. -/
theorem Stored.follow (stored : session.Stored) (outcome : Outcome) :
    (session.follow outcome).Stored := by
  -- A switch is stored as it is set, and a request stores nothing.
  apply follow_cases
  · intro _
    exact stored
  · intro toggle _
    exact stored.setToggle toggle _
  · intro next followed
    exact followed.request true

/-- Reloading puts the stored preferences into effect, if the browser has those of the session and
the columns and the sorting are as stored. -/
theorem stored_reload (copied : session.browser.preferences = session.preferences)
    (columns : session.browser.listing.columns = session.store.columns)
    (sorting : session.browser.listing.sorting = session.store.sorting) :
    session.reload.Stored := by
  have preferred : (session.prefer session.store.preferences).Stored := by
    refine ⟨rfl, ?_⟩
    show (⟨session.store.preferences, session.browser.listing.columns,
      session.browser.listing.sorting⟩ : Layout) = session.store.layout
    rw [columns, sorting]
    rfl
  rw [reload]
  split
  · -- Nothing is to be put into effect.
    rename_i same
    refine ⟨same.symm, ?_⟩
    rw [Browser.layout, SettingsStore.layout, copied, columns, sorting, ← same]
  · split
    · exact preferred.request true
    · exact preferred.redraw

/-- Edits elsewhere than under the names of the columns and the sorting change nothing but the
settings, and leave the columns and the sorting there. -/
theorem foldl_put (session : Session) {edits : List (String × Setting)}
    (elsewhere : ∀ edit ∈ edits, edit.1 ≠ Settings.columnsName ∧ edit.1 ≠ Settings.sortName) :
    ∃ store : SettingsStore, store.columns = session.store.columns ∧
      store.sorting = session.store.sorting ∧
      edits.foldl (fun session edit => session.put edit.1 edit.2) session =
        { session with store } := by
  -- By induction on the edits, each of which goes to the store alone and under some other name.
  induction edits generalizing session with
  | nil => exact ⟨session.store, rfl, rfl, rfl⟩
  | cons first rest ih =>
    obtain ⟨⟨noColumns, noSorting⟩, others⟩ := List.forall_mem_cons.mp elsewhere
    obtain ⟨store, columns, sorting, after⟩ := ih (session.put first.1 first.2) others
    exact ⟨store, columns.trans (session.store.columns_put noColumns first.2),
      sorting.trans (session.store.sorting_put noSorting first.2), after⟩

/-- Edits of preferences take effect as they are stored. -/
theorem Stored.edit (stored : session.Stored) {edits : List (String × Setting)}
    (elsewhere : ∀ edit ∈ edits, edit.1 ≠ Settings.columnsName ∧ edit.1 ≠ Settings.sortName) :
    (session.edit edits).Stored := by
  -- In between, the stored preferences may differ from those in effect, but nothing else does.
  obtain ⟨store, columns, sorting, after⟩ := session.foldl_put elsewhere
  rw [Session.edit, after]
  exact stored_reload stored.browser
    ((congrArg Layout.columns stored.layout).trans columns.symm)
    ((congrArg Layout.sorting stored.layout).trans sorting.symm)

/-- Every operation keeps what is in effect as it is stored. -/
theorem Stored.step {next : Session} (stored : session.Stored) (step : Step session next) :
    next.Stored := by
  -- Each operation has its lemma; what the worker or a disk does leaves both the layout and the
  -- store's settings.
  cases step with
  | work worker => exact ⟨stored.preferences, stored.layout⟩
  | disturb change => exact ⟨stored.preferences, stored.layout⟩
  | collect count now =>
    rw [collectUpTo]
    apply Stored.acceptAll
    exact ⟨stored.preferences, stored.layout⟩
  | request force => exact stored.request force
  | notify => exact stored.notify
  | tick elapsed => exact stored.tick elapsed
  | showTab visible => exact stored.showTab visible
  | lookFor text => exact stored.lookFor text
  | sortBy sorting => exact stored.sortBy sorting
  | showColumn cls visible => exact stored.showColumn cls visible
  | setToggle toggle on => exact stored.setToggle toggle on
  | flip toggle => exact stored.setToggle toggle _
  | execute menu actions state command => exact stored.follow _
  | edit edits elsewhere => exact stored.edit elsewhere

end Steps

/-- What a session has in effect is what its store holds, after every run. -/
theorem Reached.stored {session : Session} (reached : Reached session) : session.Stored := by
  -- By induction on the run.
  induction reached with
  | start store elevated => exact stored_start store elevated
  | step _ step ih => exact ih.step step

/-- After every run over any store, the preferences of the session and of its browser, the columns
and the sorting are what the store holds, and so another session over that store starts with the
same ones. -/
theorem Reached.restarts {session : Session} (reached : Reached session) (elevated : Bool) :
    session.store.preferences = session.preferences ∧
      session.store.preferences = session.browser.preferences ∧
      session.store.columns = session.browser.listing.columns ∧
      session.store.sorting = session.browser.listing.sorting ∧
      (Session.start session.store elevated).preferences = session.preferences ∧
      (Session.start session.store elevated).browser.layout = session.browser.layout := by
  -- A session that starts reads all of it from the store.
  obtain ⟨preferences, layout⟩ := reached.stored
  exact ⟨preferences.symm, (congrArg Layout.preferences layout).symm,
    (congrArg Layout.columns layout).symm, (congrArg Layout.sorting layout).symm,
    preferences.symm, layout.symm⟩

end AnyZone

/-- Settings that were stored in other forms than a session stores them. -/
def unusual : Settings :=
  ⟨[("DeviceShowRoot", .text " 0 "), ("DeviceTreeAutoRefresh", .text "off"),
    ("DeviceTreeColumns", .text "2, 2,none,99"), ("DeviceTreeSort", .integer 5)]⟩

/-- A session over such settings, after a switch was flipped, a column shown and a sorting chosen.
-/
def rearranged [Zone] : Session :=
  (((start (.inMemory unusual) true).flip .showDisconnected).showColumn .manufacturer true).2.sortBy
    ⟨.name, .descending⟩

/-- A session over unusual settings restarts with what was rearranged in it. -/
theorem restarts_rearranged :
    (Session.start rearranged.store false).browser.layout = rearranged.browser.layout ∧
      rearranged.store.layout =
        ⟨{ Preferences.standard with showRoot := false, showDisconnected := true },
          ⟨[.name, .service, .manufacturer]⟩, ⟨.name, .descending⟩⟩ := by
  -- A switch, a column and the sorting are changed, each of which is stored at once.
  have flipped := Reached.step (.start (.inMemory unusual) true) (.flip _ .showDisconnected)
  have shown := flipped.step (.showColumn _ .manufacturer true)
  have sorted := shown.step (.sortBy _ ⟨.name, .descending⟩)
  obtain ⟨_, _, _, _, _, layout⟩ := Reached.restarts sorted false
  exact ⟨layout, by decide +kernel⟩

end DeviceBrowser.Session

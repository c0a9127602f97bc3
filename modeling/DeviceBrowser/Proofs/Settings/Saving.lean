import DeviceBrowser.Proofs.Settings.Document

/-! Saving settings while writing may fail: what is in memory stays until it is written, and a store
that remembers no change is as its file has it. -/

namespace DeviceBrowser

namespace Settings

/-- Settings after others were stored in them, one after the other. -/
def storing (settings : Settings) (puts : List (String × Setting)) : Settings :=
  puts.foldl (fun settings put => settings.insert put.1 put.2) settings

/-- What was stored last under a name, if anything was. -/
def lastPut (puts : List (String × Setting)) (name : String) : Option Setting :=
  (puts.reverse.find? (·.1 == name)).map (·.2)

/-- What is found under a name is what was stored there last, or else what was there before. -/
theorem find?_storing (settings : Settings) (puts : List (String × Setting)) (name : String) :
    (settings.storing puts).find? name = (lastPut puts name).or (settings.find? name) := by
  induction puts generalizing settings with
  | nil => rfl
  | cons put rest ih =>
    rw [storing, List.foldl_cons, ← storing, ih, lastPut, lastPut, List.reverse_cons,
      List.find?_append]
    -- Only if nothing is stored later does the first put count.
    cases rest.reverse.find? (·.1 == name) with
    | some later => rfl
    | none =>
      by_cases here : put.1 = name
      · subst here
        simp
      · simp [here, Table.find?_insert_ne _ (Ne.symm here)]

end Settings

namespace SettingsStore

/-- What can become of a store that was opened at a place, with the settings found there and all
that was stored since they were. Nothing else touches the place, and any attempt to write may fail,
the one on closing included: then the place is opened with what was left there. -/
inductive History : Settings → List (String × Setting) → SettingsStore → Prop
  | opened {place : Place} {store : SettingsStore} (opens : openAt place = .ok store) :
      History store.settings [] store
  | put {found : Settings} {puts : List (String × Setting)} {store : SettingsStore}
      (history : History found puts store) (name : String) (setting : Setting) :
      History found (puts ++ [(name, setting)]) (store.put name setting)
  | flush {found : Settings} {puts : List (String × Setting)} {store : SettingsStore}
      (history : History found puts store) (attempt : Attempt) :
      History found puts (store.flushBy attempt).2
  | reopen {found : Settings} {puts : List (String × Setting)} {store next : SettingsStore}
      (history : History found puts store) {attempt : Attempt}
      (closes : (store.flushBy attempt).1 = .ok ()) (opens : store.reopenBy attempt = .ok next) :
      History found puts next
  | reopenUnwritten {found : Settings} {puts : List (String × Setting)}
      {store next : SettingsStore} (history : History found puts store) {attempt : Attempt}
      {fault : Fault} (fails : (store.flushBy attempt).1 = .error fault)
      (opens : store.reopenBy attempt = .ok next) : History next.settings [] next

variable {store : SettingsStore}

/-- Writing a store without a change does nothing. -/
theorem flushBy_of_unchanged (same : store.changed = false) (attempt : Attempt) :
    store.flushBy attempt = (.ok (), store) := by
  -- With or without a place, only what changed is written.
  obtain ⟨settings, place, changed⟩ := store
  cases same
  cases place <;> rfl

/-- Writing a store with a place does nothing without a change; else it fails, and leaves whatever
at the place, or it succeeds. -/
theorem flushBy_cases {place : Place} (kept : store.place = some place) (attempt : Attempt) :
    store.changed = false ∧ store.flushBy attempt = (.ok (), store) ∨
      store.changed = true ∧ (∃ left, store.flushBy attempt =
        (.error .settingsUnreadable, { store with place := some left })) ∨
      store.changed = true ∧ store.flushBy attempt = (.ok (),
        { store with place := some (.file store.settings.document), changed := false }) := by
  -- Unless the settings are unchanged, the attempt decides which of its three ends it comes to.
  cases changed : store.changed with
  | false => exact .inl ⟨rfl, flushBy_of_unchanged changed attempt⟩
  | true =>
    obtain ⟨settings, _, _⟩ := store
    cases kept
    cases changed
    cases attempt with
    | noDirectory => exact .inr (.inl ⟨rfl, place, rfl⟩)
    | brokenOff left => exact .inr (.inl ⟨rfl, left, rfl⟩)
    | written => exact .inr (.inr ⟨rfl, rfl⟩)

/-- A store opens again as it is. -/
def OpensAgain (store : SettingsStore) : Prop :=
  ∃ place, store.place = some place ∧ openAt place = .ok store

/-- A store has a place and the settings found there with all that was stored since, and without a
change it opens again as it is. -/
structure Saved (found : Settings) (puts : List (String × Setting)) (store : SettingsStore) :
    Prop where
  place : store.place.isSome
  ascending : store.settings.Ascending
  settings : store.settings = found.storing puts
  unchanged : store.changed = false → store.OpensAgain

section Steps

variable {found : Settings} {puts : List (String × Setting)}

/-- A store is saved when it is opened. -/
theorem saved_of_openAt {place : Place} (opened : openAt place = .ok store) :
    Saved store.settings [] store := by
  -- Opening says what the store is, and opening it again would give it once more.
  obtain ⟨isOpened, ascending⟩ := eq_of_openAt opened
  rw [isOpened] at opened ⊢
  exact ⟨rfl, ascending, rfl, fun _ => ⟨place, rfl, opened⟩⟩

/-- Storing a setting keeps a store saved. -/
theorem Saved.put (saved : Saved found puts store) (name : String) (setting : Setting) :
    Saved found (puts ++ [(name, setting)]) (store.put name setting) where
  -- The put is written down last, and the store counts as changed from now on.
  place := saved.place
  ascending := saved.ascending.insert name setting
  settings := by simp [SettingsStore.put, saved.settings, Settings.storing]
  unchanged impossible := by cases impossible

/-- Writing keeps a store saved, and one that was written remembers no change. -/
theorem Saved.flushBy (saved : Saved found puts store) (attempt : Attempt) :
    Saved found puts (store.flushBy attempt).2 ∧
      ((store.flushBy attempt).1 = .ok () → (store.flushBy attempt).2.changed = false) := by
  obtain ⟨place, kept⟩ := Option.isSome_iff_exists.mp saved.place
  rcases flushBy_cases kept attempt with ⟨same, after⟩ | ⟨changed, left, after⟩ | ⟨_, after⟩
  · rw [after]
    exact ⟨saved, fun _ => same⟩
  · -- Whatever is left at the place, the change is remembered.
    rw [after]
    refine ⟨⟨rfl, saved.ascending, saved.settings, ?_⟩, fun impossible => by cases impossible⟩
    intro same
    rw [show store.changed = false from same] at changed
    cases changed
  · rw [after]
    have opens := openWith_print JsonLibrary.conforms_standard saved.ascending
    exact ⟨⟨rfl, saved.ascending, saved.settings, fun _ => ⟨_, rfl, opens⟩⟩, fun _ => rfl⟩

/-- A store that is closed and written opens again as it was written. -/
theorem Saved.reopenBy (saved : Saved found puts store) {attempt : Attempt}
    (closes : (store.flushBy attempt).1 = .ok ()) :
    store.reopenBy attempt = .ok (store.flushBy attempt).2 := by
  -- After a writing that succeeded the store is unchanged, and an unchanged one opens as itself.
  obtain ⟨after, unchanged⟩ := saved.flushBy attempt
  obtain ⟨place, kept, opens⟩ := after.unchanged (unchanged closes)
  rw [SettingsStore.reopenBy, kept]
  exact opens

/-- Whatever becomes of a store, it is saved. -/
theorem History.saved (history : History found puts store) : Saved found puts store := by
  -- Nothing is forgotten but what could not be written before the place was opened again.
  induction history with
  | opened opens => exact saved_of_openAt opens
  | put _ name setting ih => exact ih.put name setting
  | flush _ attempt ih => exact (ih.flushBy attempt).1
  | reopen _ closes opens ih =>
    rw [ih.reopenBy closes] at opens
    cases opens
    exact (ih.flushBy _).1
  | reopenUnwritten _ fails opens ih =>
    -- What was left at the place is all that counts.
    obtain ⟨place, kept⟩ := Option.isSome_iff_exists.mp (ih.flushBy _).1.place
    rw [SettingsStore.reopenBy, kept] at opens
    exact saved_of_openAt opens

end Steps

/-- No setting is lost while writing fails, whatever became of the store before. A write that fails
leaves the settings and the change; a store without a change opens again as it is; and once a write
succeeds, the store is closed and opens again, whatever comes of the attempt on closing, with what
was stored last under each name, or what was found there if nothing was stored. -/
theorem History.keeps {found : Settings} {puts : List (String × Setting)}
    (history : History found puts store) :
    (∀ attempt fault, (store.flushBy attempt).1 = .error fault →
      (store.flushBy attempt).2.settings = store.settings ∧
        (store.flushBy attempt).2.changed = store.changed) ∧
    (store.changed = false → ∃ place, store.place = some place ∧ openAt place = .ok store) ∧
    ∀ attempt, (store.flushBy attempt).1 = .ok () → ∀ closing, ∃ reopened,
      (store.flushBy attempt).2.reopenBy closing = .ok reopened ∧
        ∀ name, reopened.settings.find? name =
          (Settings.lastPut puts name).or (found.find? name) := by
  have saved := history.saved
  obtain ⟨place, kept⟩ := Option.isSome_iff_exists.mp saved.place
  refine ⟨?_, saved.unchanged, ?_⟩
  · intro attempt fault fails
    rcases flushBy_cases kept attempt with ⟨_, after⟩ | ⟨_, left, after⟩ | ⟨_, after⟩
    · rw [after] at fails
      cases fails
    · rw [after]
      exact ⟨rfl, rfl⟩
    · rw [after] at fails
      cases fails
  · -- A store that was written has nothing to write when it is closed.
    intro attempt succeeds closing
    obtain ⟨after, unchanged⟩ := saved.flushBy attempt
    have closes := flushBy_of_unchanged (unchanged succeeds) closing
    refine ⟨_, after.reopenBy (congrArg Prod.fst closes), fun name => ?_⟩
    rw [closes, after.settings, Settings.find?_storing]

/-- A store that was opened at a vacant place and could not be written twice: once there was no
directory, and then writing broke off. -/
def unwritten : SettingsStore :=
  let opened : SettingsStore := ⟨.empty, some .vacant, false⟩
  let first := ((opened.put "a" (.integer 1)).flushBy .noDirectory).2
  ((first.put "b" (.text "2")).flushBy (.brokenOff (.file "\x7b"))).2

/-- What could not be written twice is there after the third attempt. -/
theorem keeps_unwritten : ∃ reopened,
    ((unwritten.put "a" (.integer 3)).flushBy .written).2.reopenBy .noDirectory = .ok reopened ∧
      reopened.settings.find? "a" = some (.integer 3) ∧
      reopened.settings.find? "b" = some (.text "2") ∧ reopened.settings.find? "c" = none := by
  -- The first attempt makes no directory, the second one leaves a torn file, and closing makes the
  -- third.
  have opened : History .empty [] ⟨.empty, some .vacant, false⟩ :=
    .opened (show openAt .vacant = .ok _ from rfl)
  have first := (opened.put "a" (.integer 1)).flush .noDirectory
  have second := (first.put "b" (.text "2")).flush (.brokenOff (.file "\x7b"))
  have keeps := History.keeps (second.put "a" (.integer 3))
  obtain ⟨reopened, opens, finds⟩ := keeps.2.2 .written rfl .noDirectory
  refine ⟨reopened, opens, ?_, ?_, ?_⟩
  · rw [finds]
    decide +kernel
  · rw [finds]
    decide +kernel
  · rw [finds]
    decide +kernel

end SettingsStore

end DeviceBrowser

import DeviceBrowser.Proofs.View.Stored
import Mathlib.Data.List.Induction

/-! A stored text is read as the columns that its entries name, in the order in which they first
name them. A text that names no class, or only that of the names, is told apart by its first
character alone, and so may be read as something else than it says. -/

namespace DeviceBrowser.Columns

open Text

/-- The classes that the entries of a stored text name, each where it is named first. -/
def named (setting : String) : List PropertyClass :=
  ((split ',' setting).filterMap entryClass?).eraseDups

/-- The columns that a stored text describes: the names, then the other classes that it names. A
text that names no class describes the standard columns. -/
def described (setting : String) : Columns :=
  if named setting = [] then standard else ⟨.name :: (named setting).filter (· != .name)⟩

/-- A zero is the first character of the text behind its blanks. -/
def LeadsWithZero (setting : String) : Prop := (trim setting).toList.head? = some '0'
deriving Decidable

/-- What is selected of the first occurrences are the first occurrences of what is selected. -/
theorem filter_eraseDups (keep : PropertyClass → Bool) (classes : List PropertyClass) :
    classes.eraseDups.filter keep = (classes.filter keep).eraseDups := by
  -- The last class counts if it is not there before, which selecting does not change.
  induction classes using List.reverseRecOn with
  | nil => rfl
  | append_singleton front last ih =>
    rw [List.eraseDups_append, List.filter_append, List.filter_append, List.eraseDups_append, ih]
    congr 1
    by_cases kept : keep last = true <;> by_cases held : last ∈ front <;>
      simp [List.removeAll, List.eraseDups_cons, kept, held]

/-- Classes are appended where they come first, but for those that are there already. -/
theorem foldl_append_eq_removeAll (more front : List PropertyClass) :
    more.foldl Columns.append front = front ++ (more.removeAll front).eraseDups := by
  induction more generalizing front with
  | nil => simp [List.removeAll]
  | cons cls rest ih =>
    rw [List.foldl_cons, Columns.append, List.cons_removeAll]
    split
    · rename_i held
      rw [ih, if_neg (by simpa using held)]
    · -- The class is new; what follows it no longer counts where it is the same.
      rename_i absent
      have others : rest.removeAll (front ++ [cls]) =
          (rest.removeAll front).filter fun other => !other == cls := by
        rw [List.removeAll, List.removeAll, List.filter_filter]
        refine List.filter_congr fun other _ => Bool.eq_iff_iff.mpr ?_
        simp [and_comm]
      rw [ih, if_pos (by simpa using absent), List.eraseDups_cons, others, List.append_assoc,
        List.singleton_append]

/-- The columns that a stored text is read as, from the classes it names. -/
theorem ofSetting_eq (setting : String) :
    ofSetting setting =
      if (∀ cls ∈ named setting, cls = .name) ∧ ¬ LeadsWithZero setting then standard
      else ⟨.name :: (named setting).filter (· != .name)⟩ := by
  have classes : ((split ',' setting).filterMap entryClass?).foldl Columns.append [.name] =
      .name :: (named setting).filter (· != .name) := by
    rw [foldl_append_eq_removeAll, List.singleton_append, named, filter_eraseDups, List.removeAll]
    refine congrArg (fun classes : List PropertyClass => .name :: classes.eraseDups)
      (List.filter_congr fun cls _ => Bool.eq_iff_iff.mpr ?_)
    simp
  -- The names stand alone exactly if no other class is named.
  have alone : (PropertyClass.name :: (named setting).filter (· != .name)).length = 1 ↔
      ∀ cls ∈ named setting, cls = .name := by
    simp
  rw [ofSetting]
  simp only [classes, alone]
  -- What is left of the condition is the first character.
  rfl

/-- A text that names no other class names nothing, or the class of the names. -/
theorem named_eq_of_forall_name {setting : String} (bare : ∀ cls ∈ named setting, cls = .name) :
    named setting = [] ∨ named setting = [.name] := by
  simp only [named, List.mem_eraseDups] at bare ⊢
  cases classes : (split ',' setting).filterMap entryClass? with
  | nil => exact .inl rfl
  | cons first rest =>
    -- The first class is that of the names, and the others are the same and no longer count.
    rw [classes] at bare
    obtain ⟨rfl, others⟩ := List.forall_mem_cons.mp bare
    refine .inr ?_
    rw [List.eraseDups_cons, List.filter_eq_nil_iff.mpr]
    · rfl
    · intro cls member
      simp [others cls member]

/-- A text that names another class is read as the columns it describes. -/
theorem ofSetting_of_named {setting : String} {cls : PropertyClass} (member : cls ∈ named setting)
    (other : cls ≠ .name) : ofSetting setting = ⟨.name :: (named setting).filter (· != .name)⟩ := by
  -- A text that names another class is not bare.
  rw [ofSetting_eq, if_neg]
  rintro ⟨bare, _⟩
  exact other (bare cls member)

/-- A text that names no other class is read as the standard columns, or as the names alone if a
zero leads it. -/
theorem ofSetting_of_bare {setting : String} (bare : ∀ cls ∈ named setting, cls = .name) :
    ofSetting setting = if LeadsWithZero setting then ⟨[.name]⟩ else standard := by
  -- The names come first in any case and nothing else is left, so only the zero decides.
  have nothing : (named setting).filter (· != .name) = [] :=
    List.filter_eq_nil_iff.mpr fun cls member => by simp [bare cls member]
  rw [ofSetting_eq, nothing]
  by_cases zero : LeadsWithZero setting
  · rw [if_neg fun both => both.2 zero, if_pos zero]
  · rw [if_pos ⟨bare, zero⟩, if_neg zero]

/-- An entry that names no class, or one that an earlier entry names, adds nothing to what a text
names. -/
theorem named_of_skipped {setting other entry : String} {before after : List String}
    (whole : split ',' setting = before ++ entry :: after)
    (without : split ',' other = before ++ after)
    (skipped : ∀ cls, entryClass? entry = some cls → cls ∈ before.filterMap entryClass?) :
    named other = named setting := by
  rw [named, named, whole, without, List.filterMap_append, List.filterMap_append,
    List.filterMap_cons]
  cases names : entryClass? entry with
  | none => rfl
  | some cls =>
    -- A class that was named before does not count where it is named again.
    have held := skipped cls names
    rw [List.eraseDups_append, List.eraseDups_append, List.cons_removeAll,
      if_neg (by simpa using held)]

/-- How a stored text is read. Whatever it is, the names come first and no class has two columns.
The columns are those that the text describes, except where it names nothing but is led by a zero,
or names the class of the names alone but is not. Entries that name no class, or one that is named
already, are of no account in a text that names another class than that of the names. -/
structure Reads (setting : String) : Prop where
  sound : (ofSetting setting).Sound
  described_iff : ofSetting setting = described setting ↔
    (named setting = [] → ¬ LeadsWithZero setting) ∧
      (named setting = [.name] → LeadsWithZero setting)
  bare : (∀ cls ∈ named setting, cls = .name) →
    ofSetting setting = if LeadsWithZero setting then ⟨[.name]⟩ else standard
  skips : ∀ before entry after other, split ',' setting = before ++ entry :: after →
    split ',' other = before ++ after →
    (∀ cls, entryClass? entry = some cls → cls ∈ before.filterMap entryClass?) →
    (∃ cls ∈ named setting, cls ≠ .name) → ofSetting other = ofSetting setting

/-- Every stored text is read so. -/
theorem ofSetting_reads (setting : String) : Reads setting := by
  have apart : standard ≠ ⟨[.name]⟩ := by decide
  refine ⟨sound_ofSetting setting, ?_, ofSetting_of_bare, ?_⟩
  · by_cases bare : ∀ cls ∈ named setting, cls = .name
    · -- The first character decides, and only one of the two readings is what the text describes.
      rw [ofSetting_of_bare bare, described]
      obtain empty | alone := named_eq_of_forall_name bare
      · by_cases zero : LeadsWithZero setting <;> simp [empty, zero, apart.symm]
      · by_cases zero : LeadsWithZero setting <;> simp [alone, zero, apart]
    · -- Another class is named, and the first character is of no account.
      push Not at bare
      obtain ⟨cls, member, other⟩ := bare
      have filled : named setting ≠ [] := List.ne_nil_of_mem member
      have notAlone : named setting ≠ [.name] := by
        intro alone
        exact other (List.mem_singleton.mp (alone ▸ member))
      rw [ofSetting_of_named member other, described, if_neg filled]
      exact iff_of_true rfl ⟨fun empty => absurd empty filled, fun alone => absurd alone notAlone⟩
  · -- Both texts name the same classes, and that is all that counts where another is among them.
    rintro before entry after other whole without skipped ⟨cls, member, apart⟩
    have same := named_of_skipped whole without skipped
    rw [ofSetting_of_named member apart, ofSetting_of_named (same ▸ member) apart, same]

/-- A text that names no class is read as the names alone when it starts with a zero, and one that
names them alone is read as the standard columns when another entry comes first. -/
theorem ofSetting_ne_described :
    (named "0abc" = [] ∧ described "0abc" = standard ∧ ofSetting "0abc" = ⟨[.name]⟩ ∧
      ofSetting "0abc" ≠ described "0abc") ∧
    (named "abc,0" = [.name] ∧ described "abc,0" = ⟨[.name]⟩ ∧ ofSetting "abc,0" = standard ∧
      ofSetting "abc,0" ≠ described "abc,0") := by
  -- In the first text a zero leads, and in the second one another entry does.
  decide +kernel

end DeviceBrowser.Columns

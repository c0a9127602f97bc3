import DeviceBrowser.Proofs.Text.Fields
import DeviceBrowser.Proofs.Text.Numeral
import DeviceBrowser.View.Columns
import DeviceBrowser.View.Sorting

/-! The stored forms of columns and sortings read back as what they were written from. -/

namespace DeviceBrowser

open Text

/-- No number that is stored has a comma. -/
theorem comma_not_mem_decimal (value : Nat) : ',' ∉ (decimal value).toList := by
  -- Digits are no commas.
  rw [decimal, String.toList_ofList]
  exact not_mem_decimalChars (by decide) value

/-- A class is found again from the number it is stored as. -/
theorem PropertyClass.ofIndex?_readNat (cls : PropertyClass) :
    (readNat 0x10000000000000000 (trim (decimal cls.index))).bind ofIndex? = some cls := by
  -- The index is far below the bound of the reading.
  have isBelow : cls.index < 0x10000000000000000 := by
    have within := (List.getElem?_eq_some_iff.mp (ofIndex?_index cls)).1
    exact Nat.lt_trans within (by decide)
  rw [trim_decimal, readNat_decimal isBelow, Option.bind_some, ofIndex?_index]

namespace Columns

/-- Columns are sound when the names come first and no class has two columns. -/
structure Sound (columns : Columns) : Prop where
  names : columns.shown.head? = some .name
  once : columns.shown.Nodup

/-- The standard columns are sound. -/
theorem sound_standard : standard.Sound := ⟨by decide, by decide⟩

/-- One more class at the end keeps columns sound, if it has no column yet. -/
theorem Sound.concat {classes : List PropertyClass} (sound : Sound ⟨classes⟩) {cls : PropertyClass}
    (absent : cls ∉ classes) : Sound ⟨classes ++ [cls]⟩ := by
  -- The names stay first, and the new class is none of the others.
  constructor
  · rw [List.head?_append, sound.names]
    rfl
  · refine List.nodup_append.mpr ⟨sound.once, by simp, ?_⟩
    rintro earlier member last isLast rfl
    exact absent (List.mem_singleton.mp isLast ▸ member)

/-- Showing or hiding a column keeps the columns sound. -/
theorem Sound.change? {columns next : Columns} (sound : columns.Sound) {cls : PropertyClass}
    {visible : Bool} (changed : columns.change? cls visible = some next) : next.Sound := by
  obtain ⟨classes⟩ := columns
  rw [Columns.change?.eq_def] at changed
  split at changed
  · -- A class that is shown had no column before.
    rename_i hidden
    cases changed
    exact sound.concat (by simpa [shows] using hidden)
  · split at changed
    · cases changed
    · -- The column of the names is never hidden, and so stays in front.
      rename_i apart
      cases changed
      obtain ⟨others, rfl⟩ := List.head?_eq_some_iff.mp sound.names
      exact ⟨by simp [Ne.symm apart], List.Pairwise.filter (· != cls) sound.once⟩
  · cases changed

/-- One more class keeps columns sound, whether it has a column already or not. -/
theorem Sound.append {classes : List PropertyClass} (sound : Sound ⟨classes⟩)
    (cls : PropertyClass) : Sound ⟨Columns.append classes cls⟩ := by
  -- A class that has a column already is not appended.
  rw [Columns.append]
  split
  · exact sound
  · rename_i absent
    exact sound.concat (by simpa using absent)

/-- Whatever text is stored, the columns it is read as are sound. -/
theorem sound_ofSetting (setting : String) : (ofSetting setting).Sound := by
  -- Whatever classes the text names, they are appended to sound columns one by one.
  have grown : ∀ (more classes : List PropertyClass), Sound ⟨classes⟩ →
      Sound ⟨more.foldl Columns.append classes⟩ := by
    intro more
    induction more with
    | nil => exact fun _ sound => sound
    | cons cls rest ih => exact fun classes sound => ih _ (sound.append cls)
  rw [ofSetting]
  split
  · exact sound_standard
  · exact grown _ _ ⟨rfl, by decide⟩

/-- Classes that are all new are appended in their order. -/
theorem foldl_append_eq {front back : List PropertyClass} (once : (front ++ back).Nodup) :
    back.foldl Columns.append front = front ++ back := by
  -- By induction on what is appended, each class of which is new to those before it.
  induction back generalizing front with
  | nil => simp
  | cons cls rest ih =>
    have absent : cls ∉ front := by
      intro member
      exact (List.nodup_append.mp once).2.2 cls member cls List.mem_cons_self rfl
    rw [List.foldl_cons, Columns.append, if_neg (by simpa using absent), ih (by simpa using once),
      List.append_assoc, List.singleton_append]

/-- The classes named in a stored form are those it was written from. -/
theorem filterMap_split_setting {columns : Columns} (filled : columns.shown ≠ []) :
    (split ',' columns.setting).filterMap entryClass? = columns.shown := by
  -- The numbers have no comma, so the text is split where they were joined.
  have free : ∀ field ∈ columns.shown.map fun cls => decimal cls.index,
      ',' ∉ field.toList := by
    intro field member
    obtain ⟨cls, _, rfl⟩ := List.mem_map.mp member
    exact comma_not_mem_decimal cls.index
  have each : entryClass? ∘ (fun cls => decimal cls.index) = some := by
    funext cls
    rw [Function.comp_apply, entryClass?, cls.ofIndex?_readNat]
  rw [setting, split_join (by simp) (by simpa using filled) free, List.filterMap_map, each,
    List.filterMap_some]

/-- Sound columns read back from their stored form. -/
theorem Sound.ofSetting_setting {columns : Columns} (sound : columns.Sound) :
    ofSetting columns.setting = columns := by
  -- A form that has the names alone is a zero, and so no sign of an unusable text.
  obtain ⟨shown⟩ := columns
  obtain ⟨names, once⟩ := sound
  obtain ⟨others, rfl⟩ := List.head?_eq_some_iff.mp names
  have classes : ((split ',' (setting ⟨.name :: others⟩)).filterMap entryClass?).foldl
      Columns.append [.name] = .name :: others := by
    rw [filterMap_split_setting (by simp), List.foldl_cons,
      show Columns.append [.name] .name = [.name] from rfl, foldl_append_eq once]
    rfl
  rw [ofSetting]
  simp only [classes]
  rw [if_neg]
  rintro ⟨single, noZero⟩
  cases others with
  | nil => exact noZero (by decide)
  | cons second rest => simp at single

end Columns

/-- A direction is found again from the number it is stored as. -/
theorem Direction.ofNumber_readNat (direction : Direction) :
    (readNat 0x100 (trim (decimal direction.number))).map ofNumber = some direction := by
  -- The three numbers are far below the bound of the reading.
  have isBelow : direction.number < 0x100 := by cases direction <;> decide
  rw [trim_decimal, readNat_decimal isBelow]
  cases direction <;> rfl

/-- A sorting reads back from its stored form. -/
theorem Sorting.ofSetting_setting (sorting : Sorting) : ofSetting sorting.setting = sorting := by
  -- Two numbers without commas are joined by one, and split there again.
  have fields : split ',' sorting.setting =
      [decimal sorting.column.index, decimal sorting.direction.number] := by
    have joined : sorting.setting =
        join "," [decimal sorting.column.index, decimal sorting.direction.number] := by
      simp [Sorting.setting, join, String.intercalate_cons_cons]
    rw [joined, split_join (by simp) (by simp)]
    simp [comma_not_mem_decimal]
  obtain ⟨number, read, isDirection⟩ :=
    Option.map_eq_some_iff.mp sorting.direction.ofNumber_readNat
  rw [ofSetting, fields]
  simp only [sorting.column.ofIndex?_readNat, read, isDirection]

end DeviceBrowser

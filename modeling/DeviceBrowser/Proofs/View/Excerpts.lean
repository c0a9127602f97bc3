import DeviceBrowser.Proofs.Text.Lowering
import DeviceBrowser.Proofs.View.Search

/-! Looking for a text that was copied from a cell finds the device of the cell, unless the copy has
a capital sigma that ends a word in one of the two only. -/

namespace DeviceBrowser

open Text

namespace SearchTerm

/-- What is looked for is the lower case of what was typed, without the blanks around it. -/
theorem needle_eq {typed : String} {term : SearchTerm} (found : ofText? typed = some term) :
    term.needle = lower (trim typed) := by
  -- A blank text gives no term, and any other one is put in lower case.
  rw [ofText?] at found
  split at found
  · cases found
  · cases found
    rfl

/-- A device matches a term exactly if the lower case of one of its cells holds what is looked
for. -/
theorem matchesDevice_iff [Zone] {typed : String} {term : SearchTerm}
    (found : ofText? typed = some term)
    {columns : List PropertyClass} {device : Device} :
    term.matchesDevice columns device = true ↔
      ∃ cls ∈ columns, (lower (trim typed)).toList <:+: (lower (device.cellText cls)).toList := by
  rw [matchesDevice, List.any_eq_true]
  -- A property without a value has an empty text, in which no term is found.
  refine exists_congr fun cls => and_congr_right fun _ => ?_
  rw [matchesCell_eq (needle_ne_empty found), containsIgnoringCase_iff, needle_eq found]

/-- What a term finds of a device, when `part` is what was typed without the blanks around it. The
device matches exactly if the lower case of a cell holds that of the part. So it does where the part
was copied from a cell in which it keeps its sigmas; every part without capital sigmas keeps
them. -/
structure FindsExcerpts [Zone] (term : SearchTerm) (part : String) (columns : List PropertyClass)
    (device : Device) : Prop where
  matches_iff : term.matchesDevice columns device = true ↔
    ∃ cls ∈ columns, (lower part).toList <:+: (lower (device.cellText cls)).toList
  kept : ∀ cls ∈ columns, ∀ before after,
    (device.cellText cls).toList = before ++ part.toList ++ after →
    KeepsSigmas before part.toList after → term.matchesDevice columns device = true
  plain : '\u03a3' ∉ part.toList → ∀ cls ∈ columns,
    part.toList <:+: (device.cellText cls).toList → term.matchesDevice columns device = true

/-- A text that is not blank is a term, and finds the devices that it was copied from. -/
theorem finds_excerpts [Zone] {typed : String} (filled : trim typed ≠ "")
    (columns : List PropertyClass)
    (device : Device) :
    ∃ term, ofText? typed = some term ∧ term.FindsExcerpts (trim typed) columns device := by
  have found : ofText? typed = some ⟨typed, lower (trim typed)⟩ := by
    rw [ofText?]
    exact if_neg (by simpa using filled)
  have kept : ∀ cls ∈ columns, ∀ before after,
      (device.cellText cls).toList = before ++ (trim typed).toList ++ after →
      KeepsSigmas before (trim typed).toList after →
      matchesDevice ⟨typed, lower (trim typed)⟩ columns device = true := by
    intro cls shown before after located keeps
    exact (matchesDevice_iff found).mpr ⟨cls, shown, keeps.infix_lower located⟩
  refine ⟨_, found, matchesDevice_iff found, kept, ?_⟩
  -- A part without capital sigmas keeps them wherever it was copied from.
  rintro free cls shown ⟨before, after, located⟩
  exact kept cls shown before after located.symm (keepsSigmas_of_not_mem free before after)

/-- A device with a Greek name. -/
def station : Device := (Device.ofId "DEV" false).set .name (.text "ΘΕΣΗ ΟΔΟΣ")

/-- The last two letters of the name, typed between blanks, find the device: the sigma ends a word
in both. -/
theorem finds_excerpts_station : trim " ΟΣ\t" = "ΟΣ" ∧ trim " ΟΣ\t" ≠ "" ∧
    ∃ term, ofText? " ΟΣ\t" = some term ∧ term.FindsExcerpts "ΟΣ" [.service, .name] station ∧
      term.matchesDevice [.service, .name] station = true := by
  have trimmed : trim " ΟΣ\t" = "ΟΣ" := by decide +kernel
  have filled : trim " ΟΣ\t" ≠ "" := by decide +kernel
  obtain ⟨term, found, finds⟩ := finds_excerpts filled [.service, .name] station
  rw [trimmed] at finds
  -- The letters end the name, where the sigma keeps its form.
  have located : (station.cellText .name).toList = "ΘΕΣΗ ΟΔ".toList ++ "ΟΣ".toList ++ [] := by
    decide +kernel
  have keeps : KeepsSigmas "ΘΕΣΗ ΟΔ".toList "ΟΣ".toList [] := by
    rw [keepsSigmas_iff]
    decide +kernel
  exact ⟨trimmed, filled, term, found, finds, finds.kept .name (by simp) _ _ located keeps⟩

/-- The first three letters of the name do not find the device: as they are typed their sigma ends a
word, and in the name it does not. -/
theorem excerpt_not_found : trim "ΘΕΣ" ≠ "" ∧
    "ΘΕΣ".toList <:+: (station.cellText .name).toList ∧ trim "ΘΕΣ" = "ΘΕΣ" ∧
    ∃ term, ofText? "ΘΕΣ" = some term ∧ term.matchesDevice [.name] station = false := by
  refine ⟨by decide +kernel, ⟨[], "Η ΟΔΟΣ".toList, by decide +kernel⟩, by decide +kernel, ?_⟩
  -- The term is what was typed with its lower case, which ends in the other sigma.
  refine ⟨⟨"ΘΕΣ", lower "ΘΕΣ"⟩, by decide +kernel, by decide +kernel⟩

end SearchTerm

end DeviceBrowser

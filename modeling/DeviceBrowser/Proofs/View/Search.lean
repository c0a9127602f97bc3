import DeviceBrowser.View.Search

/-! Matching a device means that a shown column's text contains what is looked for, and terms that
are the same look for the same. -/

namespace DeviceBrowser

namespace Text

/-- The lower case of a text that is not empty is not empty. -/
theorem lower_ne_empty {text : String} (nonempty : text ≠ "") : lower text ≠ "" := by
  -- The first character has at least one in lower case.
  have mapped : ∀ c, lowerChar c ≠ [] := by
    intro c
    rw [lowerChar]
    split
    · simp
    · split <;> simp
  cases chars : text.toList with
  | nil => exact absurd (String.toList_eq_nil_iff.mp chars) nonempty
  | cons c rest =>
    intro empty
    have none : lowerWithin [] (c :: rest) = [] := by
      rw [← chars]
      simpa [lower] using congrArg String.toList empty
    rw [lowerWithin] at none
    have head := (List.append_eq_nil_iff.mp none).1
    split at head
    · cases head
    · exact mapped c head

/-- An empty text contains nothing but the empty one. -/
theorem containsIgnoringCase_empty {needle : String} (nonempty : needle ≠ "") :
    containsIgnoringCase "" needle = false := by
  -- Neither way of looking finds a character in the empty text.
  have chars : needle.toList ≠ [] := by simpa using nonempty
  simp only [containsIgnoringCase]
  split
  · simp_all
  · split <;> simp [occursIn, lower, lowerWithin, chars]

end Text

namespace SearchTerm

open Text

/-- What is looked for is not empty. -/
theorem needle_ne_empty {typed : String} {term : SearchTerm} (found : ofText? typed = some term) :
    term.needle ≠ "" := by
  -- What was typed is not blank, and lowering it leaves no empty text.
  rw [ofText?] at found
  split at found
  · cases found
  · -- The needle is the lower case of what was typed.
    rename_i nonempty
    cases found
    exact lower_ne_empty (by simpa using nonempty)

/-- A text holds a term exactly if it contains what is looked for. -/
theorem isIn_eq {term : SearchTerm} (nonempty : term.needle ≠ "") (text : String) :
    term.isIn text = containsIgnoringCase text term.needle := by
  -- The empty text is asked about first, and it holds nothing that is looked for.
  by_cases empty : text = ""
  · subst empty
    rw [containsIgnoringCase_empty nonempty]
    rfl
  · simp [isIn, empty]

/-- A device matches in a column exactly if its text there contains what is looked for. -/
theorem matchesCell_eq [Zone] {term : SearchTerm} (nonempty : term.needle ≠ "") (device : Device)
    (cls : PropertyClass) :
    term.matchesCell device cls = containsIgnoringCase (device.cellText cls) term.needle := by
  -- The column of the names is matched with the name shown, and others with the text of their
  -- value, if there is one.
  rw [matchesCell, Device.cellText]
  split
  · exact isIn_eq nonempty _
  · cases value : (device.property cls).value with
    | some found => simp [Property.isValid, value, isIn_eq nonempty]
    | none => simp [Property.isValid, Property.text, value, containsIgnoringCase_empty nonempty]

/-- Terms that are the same look for the same. -/
theorem needle_of_isSame {left right : String}
    (same : isSame (ofText? left) (ofText? right) = true) :
    (ofText? left).map (·.needle) = (ofText? right).map (·.needle) := by
  -- Terms are the same when both are missing or both look for the same text.
  simp only [isSame, ofText?] at same ⊢
  split <;> split <;> simp_all

end SearchTerm

end DeviceBrowser

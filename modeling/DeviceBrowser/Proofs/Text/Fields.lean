import DeviceBrowser.Text.Fields

/-! A text is read back from its bytes, and fields that are joined with a separator are found again
when the text is split at it. -/

namespace DeviceBrowser.Text

/-- The bytes of a text are read as that text. -/
theorem fromUTF8?_toUTF8 (text : String) : String.fromUTF8? text.toUTF8 = some text := by
  -- The bytes of a text are valid, and what they encode is the text.
  rw [String.fromUTF8?]
  exact dif_pos text.isValidUTF8

/-- A separator in front opens a piece, and any other character joins the first one. -/
theorem splitChars_cons {separator : Char} {rest first : List Char} {others : List (List Char)}
    (pieces : splitChars separator rest = first :: others) (c : Char) :
    splitChars separator (c :: rest) =
      if c = separator then [] :: first :: others else (c :: first) :: others := by
  -- One step of splitting looks at the character in front and at the first piece of the rest.
  rw [splitChars, pieces]

/-- Some first piece is the one that a character in front joins or comes to stand before. -/
theorem exists_splitChars_cons (separator c : Char) (rest : List Char) :
    ∃ first others, splitChars separator rest = first :: others ∧
      splitChars separator (c :: rest) =
        if c = separator then [] :: first :: others else (c :: first) :: others := by
  -- There is always a first piece, so that one step can be described without a case for none.
  obtain ⟨first, others, pieces⟩ :=
    List.exists_cons_of_ne_nil (splitChars_ne_nil separator rest)
  exact ⟨first, others, pieces, splitChars_cons pieces c⟩

/-- A text without the separator is one piece. -/
theorem splitChars_eq_singleton {separator : Char} {chars : List Char} (free : separator ∉ chars) :
    splitChars separator chars = [chars] := by
  -- Each character in turn joins the only piece.
  induction chars with
  | nil => rfl
  | cons c rest ih =>
    rw [List.mem_cons, not_or] at free
    simp [splitChars, ih free.2, Ne.symm free.1]

/-- The pieces of a text with a separator in the middle are those on both sides of it. -/
theorem splitChars_append_cons (separator : Char) (front back : List Char) :
    splitChars separator (front ++ separator :: back) =
      splitChars separator front ++ splitChars separator back := by
  induction front with
  | nil =>
    -- The separator itself stands for an empty piece in front of those of the rest.
    obtain ⟨first, others, pieces, next⟩ := exists_splitChars_cons separator separator back
    rw [List.nil_append, next, if_pos rfl, pieces]
    rfl
  | cons c rest ih =>
    obtain ⟨first, others, pieces, next⟩ := exists_splitChars_cons separator c rest
    rw [pieces, List.cons_append] at ih
    rw [List.cons_append, splitChars_cons ih, next]
    split <;> rfl

/-- The first separator ends the first piece. -/
theorem splitChars_append {separator : Char} {piece : List Char} (free : separator ∉ piece)
    (rest : List Char) :
    splitChars separator (piece ++ separator :: rest) = piece :: splitChars separator rest := by
  -- The piece in front is split off whole, since it has no separator of its own.
  rw [splitChars_append_cons, splitChars_eq_singleton free, List.singleton_append]

/-- Fields without the separator come back from the text that joins them. -/
theorem split_join {separator : Char} {between : String} (single : between.toList = [separator])
    {fields : List String} (filled : fields ≠ [])
    (free : ∀ field ∈ fields, separator ∉ field.toList) :
    split separator (join between fields) = fields := by
  rw [split, join]
  -- Each field but the last is ended by the separator behind it.
  induction fields with
  | nil => exact absurd rfl filled
  | cons first rest ih =>
    obtain ⟨firstFree, restFree⟩ := List.forall_mem_cons.mp free
    cases rest with
    | nil => simp [splitChars_eq_singleton firstFree]
    | cons second others =>
      have joined : (between.intercalate (first :: second :: others)).toList =
          first.toList ++ separator :: (between.intercalate (second :: others)).toList := by
        simp [String.intercalate_cons_cons, single]
      rw [joined, splitChars_append firstFree, List.map_cons, String.ofList_toList,
        ih (by simp) restFree]

end DeviceBrowser.Text

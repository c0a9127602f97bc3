import DeviceBrowser.Proofs.Text.Fields

/-! Rows of cells as lines of a text: cells between tabs, and a newline behind each row. The rows
are found again exactly if no cell holds one of the separators. -/

namespace DeviceBrowser.Text

section Pieces

variable {separator : Char} {chars piece : List Char}

/-- There is one piece more than separators. -/
theorem length_splitChars (separator : Char) (chars : List Char) :
    (splitChars separator chars).length = chars.count separator + 1 := by
  induction chars with
  | nil => rfl
  | cons c rest ih =>
    obtain ⟨first, others, pieces, next⟩ := exists_splitChars_cons separator c rest
    rw [pieces] at ih
    rw [next]
    -- A separator opens a piece, and any other character joins the first.
    split
    · rename_i same
      rw [same, List.count_cons_self, List.length_cons, ih]
    · rename_i apart
      rw [List.count_cons_of_ne apart, ← ih, List.length_cons, List.length_cons]

/-- A piece has no separator, and no characters that the text has not. -/
theorem of_mem_splitChars (member : piece ∈ splitChars separator chars) :
    separator ∉ piece ∧ piece ⊆ chars := by
  induction chars generalizing piece with
  | nil =>
    rw [List.mem_singleton.mp member]
    simp
  | cons c rest ih =>
    obtain ⟨first, others, pieces, next⟩ := exists_splitChars_cons separator c rest
    rw [pieces] at ih
    rw [next] at member
    split at member
    · rcases List.mem_cons.mp member with rfl | later
      · simp
      · exact ⟨(ih later).1, List.subset_cons_of_subset c (ih later).2⟩
    · rename_i apart
      rcases List.mem_cons.mp member with rfl | later
      · -- The first piece has one character more, which is no separator.
        obtain ⟨free, within⟩ := ih List.mem_cons_self
        exact ⟨by simp [Ne.symm apart, free], List.cons_subset_cons c within⟩
      · obtain ⟨free, within⟩ := ih (List.mem_cons_of_mem first later)
        exact ⟨free, List.subset_cons_of_subset c within⟩

end Pieces

/-- The lines of a text, each ended by a newline. -/
def endedLines (text : String) : List String := (split '\n' text).dropLast

/-- A text has as many ended lines as newlines. -/
theorem length_endedLines (text : String) : (endedLines text).length = text.toList.count '\n' := by
  -- What stands behind the last newline is the piece that is one too many.
  rw [endedLines, List.length_dropLast, split, List.length_map, length_splitChars,
    Nat.add_sub_cancel]

/-- A text that is written line by line. -/
def writeLines (lines : List String) : String := String.join (lines.map (· ++ "\n"))

/-- The characters of a text that is written line by line. -/
theorem toList_writeLines (lines : List String) :
    (writeLines lines).toList = lines.flatMap fun line => line.toList ++ ['\n'] := by
  -- A text is joined from its lines, each with its end.
  simp [writeLines, String.toList_join, List.flatMap_map]

/-- Lines without newlines are found again. -/
theorem endedLines_writeLines {lines : List String} (free : ∀ line ∈ lines, '\n' ∉ line.toList) :
    endedLines (writeLines lines) = lines := by
  -- Behind the last newline stands an empty piece.
  have pieces : split '\n' (writeLines lines) = lines ++ [""] := by
    rw [split, toList_writeLines]
    induction lines with
    | nil => rfl
    | cons line rest ih =>
      obtain ⟨first, others⟩ := List.forall_mem_cons.mp free
      rw [List.flatMap_cons, List.append_assoc, List.singleton_append, splitChars_append first,
        List.map_cons, String.ofList_toList, ih others, List.cons_append]
  rw [endedLines, pieces, List.dropLast_concat]

/-- Rows of cells as text: a tab between two cells, and a newline behind each row. -/
def writeRows (rows : List (List String)) : String := writeLines (rows.map (join "\t"))

/-- The rows of cells that a text shows: its lines, each split at the tabs. -/
def rowsOf (text : String) : List (List String) := (endedLines text).map (split '\t')

/-- Joining fields leaves the occurrences of a character that the separator has not. -/
theorem count_join {c : Char} {separator : String} (other : c ∉ separator.toList)
    (fields : List String) :
    (join separator fields).toList.count c = (fields.flatMap String.toList).count c := by
  rw [join]
  induction fields with
  | nil => rfl
  | cons first rest ih =>
    cases rest with
    | nil => simp
    | cons second others =>
      -- The first field is followed by a separator, in which the character is not found.
      have apart : (first :: second :: others).flatMap String.toList =
          first.toList ++ (second :: others).flatMap String.toList := rfl
      rw [apart, String.intercalate_cons_cons, String.toList_append, String.toList_append,
        List.count_append, List.count_append, List.count_append,
        List.count_eq_zero_of_not_mem other, ih, Nat.add_zero]

/-- Rows take one line each, and one more for each newline in a cell. -/
theorem length_endedLines_writeRows (rows : List (List String)) :
    (endedLines (writeRows rows)).length =
      rows.length + (rows.flatten.flatMap String.toList).count '\n' := by
  rw [length_endedLines, writeRows, toList_writeLines]
  -- Every row has the newlines of its cells, and its own behind them.
  induction rows with
  | nil => rfl
  | cons row rest ih =>
    rw [List.map_cons, List.flatMap_cons, List.count_append, List.count_append, ih,
      count_join (by decide), List.flatten_cons, List.flatMap_append, List.count_append,
      List.length_cons, List.count_singleton_self]
    omega

/-- Rows take one line each exactly if no cell holds a newline. -/
theorem length_endedLines_eq_iff {rows : List (List String)} :
    (endedLines (writeRows rows)).length = rows.length ↔
      ∀ row ∈ rows, ∀ cell ∈ row, '\n' ∉ cell.toList := by
  -- The lines are as many as the rows and the newlines within cells together.
  rw [length_endedLines_writeRows, Nat.add_eq_left, List.count_eq_zero]
  simp only [List.mem_flatMap, List.mem_flatten, not_exists, not_and]
  exact ⟨fun free row member cell within => free cell ⟨row, member, within⟩,
    fun free cell ⟨row, member, within⟩ => free row member cell within⟩

/-- Rows of at least one cell are found again in their text exactly if no cell holds a tab or a
newline. -/
theorem rowsOf_writeRows_eq_iff {rows : List (List String)} (filled : ∀ row ∈ rows, row ≠ []) :
    rowsOf (writeRows rows) = rows ↔
      ∀ row ∈ rows, ∀ cell ∈ row, '\t' ∉ cell.toList ∧ '\n' ∉ cell.toList := by
  constructor
  · -- What is found are pieces of lines, which have neither of the separators.
    intro found row member cell within
    rw [← found, rowsOf] at member
    obtain ⟨line, isLine, rfl⟩ := List.mem_map.mp member
    obtain ⟨chars, isPiece, rfl⟩ := List.mem_map.mp within
    obtain ⟨lineChars, isLinePiece, rfl⟩ := List.mem_map.mp (List.dropLast_subset _ isLine)
    rw [String.toList_ofList] at isPiece ⊢
    obtain ⟨noTab, among⟩ := of_mem_splitChars isPiece
    exact ⟨noTab, fun newline => (of_mem_splitChars isLinePiece).1 (among newline)⟩
  · -- The lines are taken apart where they were ended, and each where its cells were joined.
    intro free
    have lines : ∀ line ∈ rows.map (join "\t"), '\n' ∉ line.toList := by
      intro line member
      obtain ⟨row, isRow, rfl⟩ := List.mem_map.mp member
      rw [← List.count_eq_zero, count_join (by decide), List.count_eq_zero, List.mem_flatMap]
      rintro ⟨cell, isCell, within⟩
      exact (free row isRow cell isCell).2 within
    have each : ∀ row ∈ rows, (split '\t' ∘ join "\t") row = id row := by
      intro row member
      exact split_join (by decide) (filled row member)
        fun cell within => (free row member cell within).1
    rw [rowsOf, writeRows, endedLines_writeLines lines, List.map_map, List.map_congr_left each,
      List.map_id]

end DeviceBrowser.Text

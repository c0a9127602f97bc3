import DeviceBrowser.Table

/-! Tables as finite maps: what is found after a row is written or rows are dropped, and that the
keys ascend, so that a value is found exactly under the key of its row. -/

namespace DeviceBrowser.Table

variable {κ α : Type}

@[simp] theorem find?_empty [BEq κ] (key : κ) : (empty : Table κ α).find? key = none := rfl

/-- Dropping rows by a test of their keys keeps what is found under a key that passes. -/
theorem find?_retain [BEq κ] [LawfulBEq κ] (table : Table κ α) (keep : κ → Bool) (key : κ) :
    (table.retain keep).find? key = if keep key = true then table.find? key else none := by
  simp only [find?, retain]
  induction table.rows with
  | nil => simp
  | cons row rest ih =>
    by_cases here : row.1 = key
    · -- The row is the one sought, and stays exactly if the key passes.
      subst here
      by_cases passes : keep row.1 = true
      · simp [passes]
      · rw [List.filter_cons_of_neg (by simpa using passes), ih, if_neg passes, if_neg passes]
    · -- Any other row is passed by whether it stays or not.
      have other : (row.1 == key) = false := by simpa using here
      simp only [List.filter_cons, List.find?_cons, other]
      split
      · simpa only [List.find?_cons, other] using ih
      · exact ih

section Order

variable [Ord κ]

/-- The keys ascend, and so none comes twice. -/
def Ascending (table : Table κ α) : Prop :=
  table.rows.Pairwise fun earlier later => compare earlier.1 later.1 = .lt

theorem ascending_empty : (empty : Table κ α).Ascending := List.Pairwise.nil

theorem Ascending.retain {table : Table κ α} (ascending : table.Ascending) (keep : κ → Bool) :
    (table.retain keep).Ascending :=
  -- A part of an ascending list ascends.
  List.Pairwise.filter _ ascending

/-- Every row after one is written is the one written or was there before. -/
theorem mem_insertRow {key : κ} {value : α} {rows : List (κ × α)} {row : κ × α}
    (member : row ∈ insertRow key value rows) : row = (key, value) ∨ row ∈ rows := by
  -- By induction on the rows, following where the key is written: before a row, over it or behind.
  induction rows with
  | nil => simpa [insertRow] using member
  | cons first rest ih =>
    rw [insertRow] at member
    split at member
    · simpa using member
    · rcases List.mem_cons.mp member with here | later
      · exact .inl here
      · exact .inr (List.mem_cons_of_mem _ later)
    · rcases List.mem_cons.mp member with rfl | later
      · exact .inr List.mem_cons_self
      · exact (ih later).imp_right (List.mem_cons_of_mem _)

/-- A row whose key is greater than all goes to the end. -/
theorem insertRow_of_lt [Std.OrientedOrd κ] {key : κ} {value : α} {rows : List (κ × α)}
    (less : ∀ row ∈ rows, compare row.1 key = .lt) :
    insertRow key value rows = rows ++ [(key, value)] := by
  -- By induction on the rows, all of which are passed.
  induction rows with
  | nil => rfl
  | cons row rest ih =>
    obtain ⟨first, others⟩ := List.forall_mem_cons.mp less
    have behind : compare key row.1 = .gt := Std.OrientedCmp.gt_iff_lt.mpr first
    rw [insertRow, behind]
    exact congrArg (row :: ·) (ih others)

/-- A table is built of its rows when their keys ascend. -/
theorem Ascending.foldl_insert [Std.OrientedOrd κ] {table : Table κ α}
    (ascending : table.Ascending) :
    table.rows.foldl (fun built row => built.insert row.1 row.2) empty = table := by
  -- The keys of the rows that are built in already are all less than that of the next.
  have grown : ∀ (back front : List (κ × α)), Ascending ⟨front ++ back⟩ →
      back.foldl (fun built row => built.insert row.1 row.2) (⟨front⟩ : Table κ α) =
        ⟨front ++ back⟩ := by
    intro back
    induction back with
    | nil => simp
    | cons row rest ih =>
      intro front ordered
      have last : insertRow row.1 row.2 front = front ++ [row] :=
        insertRow_of_lt fun other member =>
          (List.pairwise_append.mp ordered).2.2 other member row List.mem_cons_self
      rw [List.foldl_cons, Table.insert, last, ih _ (by simpa using ordered)]
      simp
  exact grown table.rows [] ascending

variable [Std.LawfulEqOrd κ]

theorem Ascending.insert [Std.TransOrd κ] {table : Table κ α} (ascending : table.Ascending)
    (key : κ) (value : α) : (table.insert key value).Ascending := by
  obtain ⟨rows⟩ := table
  simp only [Ascending, Table.insert] at ascending ⊢
  induction rows with
  | nil => simp [insertRow]
  | cons first rest ih =>
    obtain ⟨below, ordered⟩ := List.pairwise_cons.mp ascending
    rw [insertRow]
    split
    · -- The key is before the first one, and so before all.
      rename_i before
      refine List.pairwise_cons.mpr ⟨?_, ascending⟩
      intro row member
      rcases List.mem_cons.mp member with rfl | later
      · exact before
      · exact Std.TransCmp.lt_trans before (below row later)
    · -- The key is the first one, whose value alone changes.
      rename_i same
      have key_eq := Std.compare_eq_iff_eq.mp same
      refine List.pairwise_cons.mpr ⟨?_, ordered⟩
      intro row later
      rw [key_eq]
      exact below row later
    · -- The key goes behind the first one.
      rename_i behind
      refine List.pairwise_cons.mpr ⟨?_, ih ordered⟩
      intro row member
      rcases mem_insertRow member with rfl | old
      · exact Std.OrientedCmp.gt_iff_lt.mp behind
      · exact below row old

variable [BEq κ] [LawfulBEq κ]

/-- What is written under a key is found there. -/
@[simp] theorem find?_insert_self (table : Table κ α) (key : κ) (value : α) :
    (table.insert key value).find? key = some value := by
  simp only [find?, insert]
  induction table.rows with
  | nil => simp [insertRow]
  | cons row rest ih =>
    rw [insertRow]
    split
    · simp
    · simp
    · -- A row of a lesser key is passed by.
      rename_i behind
      have passed : (row.1 == key) = false := by
        rw [beq_eq_false_iff_ne]
        rintro rfl
        rw [Std.compare_eq_iff_eq.mpr rfl] at behind
        cases behind
      simpa only [List.find?_cons, passed] using ih

/-- Writing under a key changes nothing of what is found under another. -/
theorem find?_insert_ne (table : Table κ α) {key other : κ} (ne : other ≠ key) (value : α) :
    (table.insert key value).find? other = table.find? other := by
  have passed : (key == other) = false := by simpa using Ne.symm ne
  simp only [find?, insert]
  induction table.rows with
  | nil => simp [insertRow, passed]
  | cons row rest ih =>
    rw [insertRow]
    split
    · simp only [List.find?_cons, passed]
    · -- The row that is replaced has the key as well, and not the other one.
      rename_i replaced
      have replacedPassed : (row.1 == other) = false :=
        Std.compare_eq_iff_eq.mp replaced ▸ passed
      simp only [List.find?_cons, passed, replacedPassed]
    · simp only [List.find?_cons]
      split
      · rfl
      · exact ih

/-- Where the keys ascend, what is found under a key is what a row of it holds. -/
theorem Ascending.find?_eq_some_iff {table : Table κ α} (ascending : table.Ascending) {key : κ}
    {value : α} : table.find? key = some value ↔ (key, value) ∈ table.rows := by
  obtain ⟨rows⟩ := table
  simp only [find?, Ascending] at ascending ⊢
  induction rows with
  | nil => simp
  | cons first rest ih =>
    obtain ⟨below, ordered⟩ := List.pairwise_cons.mp ascending
    rw [List.find?_cons, List.mem_cons]
    by_cases here : first.1 = key
    · -- No later row has the key of the first.
      subst here
      have alone : (first.1, value) ∉ rest := by
        intro later
        have less := below _ later
        rw [Std.compare_eq_iff_eq.mpr rfl] at less
        cases less
      simp only [beq_self_eq_true, Option.map_some, Option.some.injEq, alone, or_false]
      constructor
      · rintro rfl
        rfl
      · intro same
        exact (congrArg Prod.snd same).symm
    · -- The first row has another key, and both sides ask the rest.
      have other : (first.1 == key) = false := by simpa using here
      simp only [other, ih ordered]
      constructor
      · exact .inr
      · rintro (same | later)
        · exact absurd (congrArg Prod.fst same).symm here
        · exact later

end Order

end DeviceBrowser.Table

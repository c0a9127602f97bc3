import DeviceBrowser.Proofs.View.Search
import DeviceBrowser.View.Listing

/-! What matching and marking make of a snapshot: one mark for each node, set where a shown column
holds what is looked for. -/

namespace DeviceBrowser.Snapshot

variable {zone : Zone}

/-- Matching marks each node once. -/
@[simp] theorem size_matching (snapshot : Snapshot) (search : Option SearchTerm)
    (columns : Columns) : (snapshot.matching search columns).size = snapshot.size := by
  -- Matching makes one mark for each number.
  simp [matching]

/-- Marking upwards adds and drops no mark. -/
@[simp] theorem size_markUp (snapshot : Snapshot) (steps : Nat) (number : Option Nat)
    (marks : Array Bool) : (snapshot.markUp steps number marks).size = marks.size := by
  -- A mark is set in its place, or none is set.
  induction steps generalizing number marks with
  | zero => rfl
  | succ steps ih =>
    cases number with
    | none => rfl
    | some number =>
      rw [markUp]
      split
      · rw [ih, Array.size_setIfInBounds]
      · rfl

/-- The nodes that a tree shows are marked once each. -/
@[simp] theorem size_reachable (snapshot : Snapshot) (visible : Array Bool) :
    (snapshot.reachable visible).size = visible.size := by
  -- Every node passed on the way leaves the number of marks.
  have general : ∀ (numbers : List Nat) (marks : Array Bool),
      (numbers.foldl (fun marks number =>
        if visible[number]? = some true then
          snapshot.markUp snapshot.size ((snapshot.node? number).bind (·.parent)) marks
        else marks) marks).size = marks.size := by
    intro numbers
    induction numbers with
    | nil => intro marks; rfl
    | cons number rest ih =>
      intro marks
      rw [List.foldl_cons, ih]
      split
      · exact snapshot.size_markUp _ _ _
      · rfl
  exact general _ _

/-- Matching depends on what is looked for only. -/
theorem matching_congr (snapshot : Snapshot) {left right : Option SearchTerm} (columns : Columns)
    (same : left.map (·.needle) = right.map (·.needle)) :
    snapshot.matching left columns = snapshot.matching right columns := by
  -- A device is matched with what is looked for, and never with the text as it was typed.
  cases left with
  | none =>
    cases right with
    | none => rfl
    | some right => cases same
  | some left =>
    cases right with
    | none => cases same
    | some right =>
      have needle : left.needle = right.needle := Option.some.inj same
      have cell : left.matchesCell = right.matchesCell := by
        funext device cls
        simp [SearchTerm.matchesCell, SearchTerm.isIn, needle]
      rw [matching, matching]
      congr 2
      funext number
      cases snapshot.device? number with
      | none => rfl
      | some device => simp only [SearchTerm.matchesDevice, cell]

/-- A node matches if nothing is looked for, or if its text in a shown column contains what is. -/
theorem matching_eq_true {snapshot : Snapshot} {typed : String} {columns : Columns} {number : Nat}
    (within : number < snapshot.size) :
    (snapshot.matching (SearchTerm.ofText? typed) columns)[number]? = some true ↔
      SearchTerm.ofText? typed = none ∨ ∃ term, SearchTerm.ofText? typed = some term ∧
        ∃ cls ∈ columns.shown,
          Text.containsIgnoringCase (snapshot.cellText number cls) term.needle = true := by
  -- The mark of a node is the answer of its device, and a node without a device has empty cells.
  cases found : SearchTerm.ofText? typed with
  | none => simp [matching, within]
  | some term =>
    have nonempty := SearchTerm.needle_ne_empty found
    cases device : snapshot.device? number with
    | none =>
      simp [matching, within, device, cellText, Text.containsIgnoringCase_empty nonempty]
    | some _ =>
      simp [matching, within, device, cellText, SearchTerm.matchesDevice,
        SearchTerm.matchesCell_eq nonempty]

end DeviceBrowser.Snapshot

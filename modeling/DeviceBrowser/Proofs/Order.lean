import Mathlib.Order.Defs.LinearOrder
import DeviceBrowser.Order

/-! Stable ordering puts no item before one that is less, when the order agrees with itself on the
items. Under a total comparison it is the library's stable sort. -/

namespace DeviceBrowser

/-- An order agrees with itself on some items: of two at most one is less, and an item that is not
less than a second, which is not less than a third, is not less than the third. -/
structure Ranks {α : Type} (less : α → α → Bool) (items : List α) : Prop where
  asymm : ∀ left ∈ items, ∀ right ∈ items, less left right = true → less right left = false
  trans : ∀ left ∈ items, ∀ middle ∈ items, ∀ right ∈ items,
    less left middle = false → less middle right = false → less left right = false

/-- An order that agrees with itself on some items does so on fewer. -/
theorem Ranks.subset {α : Type} {less : α → α → Bool} {items others : List α}
    (ranks : Ranks less items) (within : others ⊆ items) : Ranks less others where
  -- Fewer items are asked about.
  asymm left leftIn right rightIn := ranks.asymm left (within leftIn) right (within rightIn)
  trans left leftIn middle middleIn right rightIn :=
    ranks.trans left (within leftIn) middle (within middleIn) right (within rightIn)

/-- Inserting an item keeps a list ordered from the last to the first. -/
theorem insertLast_pairwise {α : Type} {less : α → α → Bool} {item : α} {items : List α}
    (ranks : Ranks less (item :: items))
    (ordered : items.Pairwise fun later earlier => less later earlier = false) :
    (insertLast less item items).Pairwise fun later earlier => less later earlier = false := by
  -- The item passes by those it is less than, and is not less than any behind the first other one.
  induction items with
  | nil => simp [insertLast]
  | cons last rest ih =>
    obtain ⟨lastBehind, restOrdered⟩ := List.pairwise_cons.mp ordered
    rw [insertLast]
    split
    · rename_i less_last
      -- It goes behind the last, which must not be less than it.
      have tail := ih (ranks.subset (by simp)) restOrdered
      refine List.pairwise_cons.mpr ⟨?_, tail⟩
      intro other member
      rcases List.mem_cons.mp ((insertLast_perm less item rest).mem_iff.mp member) with same | old
      · subst other
        exact ranks.asymm item (by simp) last (by simp) less_last
      · exact lastBehind other old
    · rename_i not_less
      -- It stays in front, and the order among the others carries over by transitivity.
      have notLess : less item last = false := by simpa using not_less
      refine List.pairwise_cons.mpr ⟨?_, ordered⟩
      intro other member
      rcases List.mem_cons.mp member with same | old
      · subst other
        exact notLess
      · exact ranks.trans item (by simp) last (by simp) other (by simp [old]) notLess
          (lastBehind other old)

/-- In an ordered list no item is less than one before it. -/
theorem orderBy_pairwise {α : Type} {less : α → α → Bool} {items : List α}
    (ranks : Ranks less items) :
    (orderBy less items).Pairwise fun earlier later => less later earlier = false := by
  -- The items inserted so far stay ordered from the last to the first.
  have general : ∀ pending ordered : List α, Ranks less (pending ++ ordered) →
      (ordered.Pairwise fun later earlier => less later earlier = false) →
      (pending.foldl (fun ordered item => insertLast less item ordered) ordered).Pairwise
        fun later earlier => less later earlier = false := by
    intro pending
    induction pending with
    | nil =>
      intro ordered _ sorted
      exact sorted
    | cons item rest ih =>
      intro ordered ranks sorted
      have inserted := insertLast_perm less item ordered
      apply ih
      · apply ranks.subset
        intro other member
        simpa [inserted.mem_iff, or_left_comm] using member
      · exact insertLast_pairwise (ranks.subset (by simp)) sorted
  exact List.pairwise_reverse.mpr (general items [] (by simpa using ranks) List.Pairwise.nil)

/-- Where no two items tie there is one arrangement of them that is in order, and ordering finds it
from wherever it starts. -/
theorem orderBy_eq {α : Type} {less : α → α → Bool} {items before order : List α}
    (ranks : Ranks less items)
    (apart : ∀ left ∈ items, ∀ right ∈ items,
      less left right = false → less right left = false → left = right)
    (start : before.Perm items) (perm : order.Perm items)
    (ordered : order.Pairwise fun earlier later => less later earlier = false) :
    orderBy less before = order := by
  -- Both arrangements are in order, and items that are not told apart by it are the same.
  have found := (orderBy_perm less before).trans start
  have inOrder := orderBy_pairwise (ranks.subset start.subset)
  apply List.Perm.eq_of_pairwise _ inOrder ordered (found.trans perm.symm)
  intro left right leftIn rightIn notLess notGreater
  exact apart left (found.mem_iff.mp leftIn) right (perm.mem_iff.mp rightIn) notGreater notLess

/-! ## Ordering as sorting -/

section Mapping

variable {α β : Type} (less : β → β → Bool) (value : α → β)

/-- An item moves past those that its value is less than. -/
theorem insertLast_map (item : α) (ordered : List α) :
    (insertLast (fun left right => less (value left) (value right)) item ordered).map value =
      insertLast less (value item) (ordered.map value) := by
  -- By induction on the items passed, which are compared by their values on both sides.
  induction ordered with
  | nil => rfl
  | cons last rest ih =>
    simp only [insertLast, List.map_cons, ← ih]
    split <;> rfl

/-- The values of items are ordered as the items are by their values. -/
theorem orderBy_map (items : List α) :
    (orderBy (fun left right => less (value left) (value right)) items).map value =
      orderBy less (items.map value) := by
  -- The values inserted so far are those of the items inserted so far.
  have general : ∀ pending ordered : List α,
      (pending.foldl (fun ordered item =>
        insertLast (fun left right => less (value left) (value right)) item ordered)
        ordered).map value =
        (pending.map value).foldl (fun ordered item => insertLast less item ordered)
          (ordered.map value) := by
    intro pending
    induction pending with
    | nil =>
      intro ordered
      rfl
    | cons item rest ih =>
      intro ordered
      rw [List.foldl_cons, ih, insertLast_map, List.map_cons, List.foldl_cons]
  rw [orderBy, orderBy, List.map_reverse, general, List.map_nil]

end Mapping

section Comparison

variable {α : Type} {less : α → α → Bool} {item : α} {back front : List α}

/-- An item moves in front of all that it is less than. -/
theorem insertLast_append_of_less (past : ∀ later ∈ back, less item later = true) :
    insertLast less item (back ++ front) = back ++ insertLast less item front := by
  -- By induction on the items at the end, each of which the item passes.
  induction back with
  | nil => rfl
  | cons last rest ih =>
    obtain ⟨lessLast, lessRest⟩ := List.forall_mem_cons.mp past
    rw [List.cons_append, insertLast, if_pos lessLast, ih lessRest, List.cons_append]

/-- An item stays behind all that is in front of one that it is not less than. -/
theorem insertLast_append_of_not_less (stop : ∀ first ∈ front.head?, less item first = false) :
    insertLast less item (back ++ front) = insertLast less item back ++ front := by
  -- By induction on the items at the end; the item stops at the first of those in front, if it gets
  -- there.
  induction back with
  | nil =>
    cases front with
    | nil => rfl
    | cons first rest =>
      have notLess := stop first rfl
      simp [insertLast, notLess]
  | cons last rest ih =>
    rw [List.cons_append, insertLast, insertLast, ih]
    split <;> rfl

/-- An item is less than another when it compares so. -/
def lessBy (cmp : α → α → Ordering) (left right : α) : Bool := cmp left right == .lt

variable {cmp : α → α → Ordering} [Std.TransCmp cmp]

/-- An item is not less than those at or before it. -/
theorem lessBy_eq_false {left right : α} :
    lessBy cmp left right = false ↔ (cmp right left).isLE = true := by
  -- Turning the comparison around, less is ruled out just by equal or greater.
  rw [lessBy, @Std.OrientedCmp.eq_swap _ cmp _ left right]
  cases cmp right left <;> decide

/-- What is less than an item is less than all that is not. -/
theorem lessBy_of_less {left middle right : α} (first : lessBy cmp left middle = true)
    (second : lessBy cmp right middle = false) : lessBy cmp left right = true := by
  -- The second is at or before the third, which transitivity puts together.
  rw [lessBy_eq_false] at second
  simp only [lessBy, beq_iff_eq] at first ⊢
  exact Std.TransCmp.lt_of_lt_of_isLE first second

variable (cmp)

/-- The items inserted behind and in front of one item are those inserted without it. -/
theorem foldl_insertLast_middle (pending : List α)
    (behind : ∀ later ∈ back, lessBy cmp later item = false)
    (ahead : ∀ earlier ∈ front, lessBy cmp earlier item = true) :
    ∃ allBehind allAhead : List α,
      pending.foldl (fun ordered other => insertLast (lessBy cmp) other ordered)
        (back ++ item :: front) = allBehind ++ item :: allAhead ∧
      pending.foldl (fun ordered other => insertLast (lessBy cmp) other ordered)
        (back ++ front) = allBehind ++ allAhead ∧
      (∀ later ∈ allBehind, lessBy cmp later item = false) ∧
      ∀ earlier ∈ allAhead, lessBy cmp earlier item = true := by
  induction pending generalizing back front with
  | nil => exact ⟨back, front, rfl, rfl, behind, ahead⟩
  | cons other rest ih =>
    simp only [List.foldl_cons]
    cases isLess : lessBy cmp other item with
    | true =>
      -- It is less than the item and all behind that, and moves in front of them.
      have past : ∀ later ∈ back, lessBy cmp other later = true :=
        fun later member => lessBy_of_less isLess (behind later member)
      rw [insertLast_append_of_less past, insertLast_append_of_less past, insertLast,
        if_pos isLess]
      apply ih behind
      intro earlier member
      rcases List.mem_cons.mp ((insertLast_perm _ _ _).mem_iff.mp member) with rfl | old
      · exact isLess
      · exact ahead earlier old
    | false =>
      -- It is not less than the item, nor than any in front of that, and stays behind them.
      have stop : ∀ first ∈ front.head?, lessBy cmp other first = false := by
        intro first isFirst
        have less := ahead first (List.mem_of_head? isFirst)
        rw [lessBy_eq_false] at isLess ⊢
        simp only [lessBy, beq_iff_eq] at less
        exact Ordering.isLE_of_eq_lt (Std.TransCmp.lt_of_lt_of_isLE less isLess)
      rw [insertLast_append_of_not_less stop, insertLast_append_of_not_less (by simpa using isLess)]
      refine ih ?_ ahead
      intro later member
      rcases List.mem_cons.mp ((insertLast_perm _ _ _).mem_iff.mp member) with rfl | old
      · exact isLess
      · exact behind later old

/-- A list ordered by a comparison, with one item more at its start, has that item before those that
are not less than it and behind those that are. -/
theorem orderBy_cons (item : α) (items : List α) : ∃ front back,
    orderBy (lessBy cmp) (item :: items) = front ++ item :: back ∧
    orderBy (lessBy cmp) items = front ++ back ∧
    (∀ earlier ∈ front, lessBy cmp earlier item = true) ∧
    ∀ later ∈ back, lessBy cmp later item = false := by
  -- Nothing stands behind or in front of the item when it is inserted first.
  obtain ⟨behind, ahead, withItem, without, isBehind, isAhead⟩ :=
    foldl_insertLast_middle cmp items (List.forall_mem_nil _) (List.forall_mem_nil _)
  refine ⟨ahead.reverse, behind.reverse, ?_, ?_, ?_, ?_⟩
  · simp only [orderBy, List.foldl_cons, insertLast]
    rw [List.nil_append] at withItem
    rw [withItem]
    simp
  · rw [orderBy, ← List.reverse_append, ← without]
    rfl
  · simpa using isAhead
  · simpa using isBehind

/-- Marked items that stand before all unmarked ones are those that a filter keeps. -/
theorem filter_append_of_marked {marked : α → Bool} (isMarked : ∀ item ∈ front, marked item = true)
    (unmarked : ∀ item ∈ back, marked item = false) : (front ++ back).filter marked = front := by
  -- The filter keeps all of the front and nothing of the back.
  have none : back.filter marked = [] := List.filter_eq_nil_iff.mpr (by simpa using unmarked)
  rw [List.filter_append, List.filter_eq_self.mpr isMarked, none, List.append_nil]

/-- A list splits in one way into marked items and unmarked ones behind them. -/
theorem append_inj_of_marked {marked : α → Bool} {first second : List α}
    (whole : front ++ back = first ++ second) (isMarked : ∀ item ∈ front, marked item = true)
    (unmarked : ∀ item ∈ back, marked item = false)
    (firstMarked : ∀ item ∈ first, marked item = true)
    (secondUnmarked : ∀ item ∈ second, marked item = false) : front = first ∧ back = second := by
  -- Both fronts are what the filter keeps of the whole.
  have fronts : front = first := by
    rw [← filter_append_of_marked isMarked unmarked, whole,
      filter_append_of_marked firstMarked secondUnmarked]
  exact ⟨fronts, List.append_cancel_left (fronts ▸ whole)⟩

/-- Items that are left out may be left out before ordering or after it. -/
theorem filter_orderBy (keeps : α → Bool) (items : List α) :
    (orderBy (lessBy cmp) items).filter keeps = orderBy (lessBy cmp) (items.filter keeps) := by
  induction items with
  | nil => rfl
  | cons item rest ih =>
    -- The first item splits the others in order, into those that are less than it and those behind.
    obtain ⟨front, back, ordered, others, isAhead, isBehind⟩ := orderBy_cons cmp item rest
    rw [others, List.filter_append] at ih
    rw [ordered, List.filter_append]
    by_cases kept : keeps item = true
    · -- The kept ones among the others split at the same place.
      obtain ⟨first, second, orderedKept, othersKept, isFirst, isSecond⟩ :=
        orderBy_cons cmp item (rest.filter keeps)
      rw [othersKept] at ih
      obtain ⟨fronts, backs⟩ := append_inj_of_marked ih
        (fun earlier member => isAhead earlier (List.mem_filter.mp member).1)
        (fun later member => isBehind later (List.mem_filter.mp member).1) isFirst isSecond
      rw [List.filter_cons_of_pos kept, List.filter_cons_of_pos kept, fronts, backs, orderedKept]
    · rw [List.filter_cons_of_neg kept, List.filter_cons_of_neg kept, ih]

/-- Of two items one is at or before the other. -/
theorem isLE_total (left right : α) : ((cmp left right).isLE || (cmp right left).isLE) = true := by
  -- Turning the comparison around, less and greater change places.
  rw [@Std.OrientedCmp.eq_swap _ cmp _ right left]
  cases cmp left right <;> decide

/-- Ordering by a comparison is the library's stable sort. -/
theorem orderBy_eq_mergeSort (items : List α) :
    orderBy (lessBy cmp) items = items.mergeSort fun left right => (cmp left right).isLE := by
  have trans : ∀ left middle right : α, (cmp left middle).isLE = true →
      (cmp middle right).isLE = true → (cmp left right).isLE = true :=
    fun _ _ _ => Std.TransCmp.isLE_trans
  induction items with
  | nil => simp [orderBy]
  | cons item rest ih =>
    -- Both put the item behind those that are less, and the others are sorted alike.
    obtain ⟨front, back, ordered, others, isAhead, isBehind⟩ := orderBy_cons cmp item rest
    obtain ⟨first, second, sorted, same, notAtMost⟩ :=
      List.mergeSort_cons trans (isLE_total cmp) item rest
    have inOrder := List.pairwise_mergeSort trans (isLE_total cmp) (item :: rest)
    rw [sorted, List.pairwise_append, List.pairwise_cons] at inOrder
    have firstLess : ∀ earlier ∈ first, lessBy cmp earlier item = true := by
      intro earlier member
      have greater := notAtMost earlier member
      rw [← Bool.not_eq_false, lessBy_eq_false]
      simpa using greater
    have secondNotLess : ∀ later ∈ second, lessBy cmp later item = false :=
      fun later member => lessBy_eq_false.mpr (inOrder.2.1.1 later member)
    have whole : front ++ back = first ++ second := by rw [← others, ih, same]
    obtain ⟨fronts, backs⟩ := append_inj_of_marked whole isAhead isBehind firstLess secondNotLess
    rw [ordered, sorted, fronts, backs]

end Comparison

/-- Where every item before a marked one is marked, none is behind the first that is not. -/
theorem unmarked_dropWhile {α : Type} {marked : α → Bool} {items : List α}
    (ordered : items.Pairwise fun earlier later => marked later = true → marked earlier = true) :
    ∀ item ∈ items.dropWhile marked, marked item = false := by
  -- By induction on the items: behind an unmarked one a marked one would be out of order.
  induction items with
  | nil => simp
  | cons first rest ih =>
    obtain ⟨before, restOrdered⟩ := List.pairwise_cons.mp ordered
    cases isMarked : marked first with
    | true =>
      rw [List.dropWhile_cons_of_pos isMarked]
      exact ih restOrdered
    | false =>
      rw [List.dropWhile_cons_of_neg (by simp [isMarked])]
      intro item member
      rcases List.mem_cons.mp member with rfl | later
      · exact isMarked
      · exact Bool.eq_false_iff.mpr fun itemMarked => by
          rw [before item later itemMarked] at isMarked
          cases isMarked

end DeviceBrowser

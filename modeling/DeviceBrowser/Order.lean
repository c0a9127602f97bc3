/-! Stable ordering of lists: each item moves in front of those before it only while it is less than
the one right in front, so that items of equal rank keep their order. -/

namespace DeviceBrowser

/-- Puts an item into a list that is ordered from the last to the first: in front of the first item
that it is not less than. -/
def insertLast {α : Type} (less : α → α → Bool) (item : α) : List α → List α
  | [] => [item]
  | last :: rest =>
    if less item last then last :: insertLast less item rest else item :: last :: rest

/-- The items in order; equal ones stay as they were. -/
def orderBy {α : Type} (less : α → α → Bool) (items : List α) : List α :=
  (items.foldl (fun ordered item => insertLast less item ordered) []).reverse

/-- Inserting an item adds that item and nothing else. -/
theorem insertLast_perm {α : Type} (less : α → α → Bool) (item : α) (items : List α) :
    (insertLast less item items).Perm (item :: items) := by
  -- The item passes some items by, each passing a swap.
  induction items with
  | nil => exact List.Perm.refl _
  | cons last rest ih =>
    rw [insertLast]
    split
    · exact (ih.cons last).trans (List.Perm.swap item last rest)
    · exact List.Perm.refl _

/-- Ordering loses and repeats nothing. -/
theorem orderBy_perm {α : Type} (less : α → α → Bool) (items : List α) :
    (orderBy less items).Perm items := by
  -- Each item of the list is inserted once.
  have general : ∀ (pending ordered : List α),
      (pending.foldl (fun ordered item => insertLast less item ordered) ordered).Perm
        (pending ++ ordered) := by
    intro pending
    induction pending with
    | nil => intro ordered; exact List.Perm.refl _
    | cons item rest ih =>
      intro ordered
      exact (ih _).trans (((insertLast_perm less item ordered).append_left rest).trans
        List.perm_middle)
  have whole := general items []
  rw [List.append_nil] at whole
  exact (List.reverse_perm _).trans whole

end DeviceBrowser

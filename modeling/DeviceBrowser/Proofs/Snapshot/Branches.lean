import Mathlib.Logic.Relation
import DeviceBrowser.Proofs.Inventory.Growth
import DeviceBrowser.Snapshot

/-! Branches hold every shown device below their tops exactly once. -/

namespace DeviceBrowser

namespace Inventory

/-- A device stands at or below another: following parents leads from the one to the other. -/
abbrev Below (inventory : Inventory) : Nat → Nat → Prop :=
  Relation.ReflTransGen fun child parent => inventory.parent? child = some parent

/-- A device does not come before those it stands below. -/
theorem Linked.le_of_below {inventory : Inventory} (linked : inventory.Linked)
    {position above : Nat} (below : inventory.Below position above) : above ≤ position := by
  -- Each step up leads to a parent, which comes before its child.
  induction below with
  | refl => exact Nat.le_refl _
  | tail _ step ih =>
    have less := linked.parent_lt step
    omega

/-- Two devices above a third stand one below the other, as a device has one parent at most. -/
theorem below_total {inventory : Inventory} {position left right : Nat}
    (belowLeft : inventory.Below position left) (belowRight : inventory.Below position right) :
    inventory.Below left right ∨ inventory.Below right left := by
  -- Both lie on the one way up that starts at the third.
  apply Relation.ReflTransGen.total_of_right_unique _ belowLeft belowRight
  intro child up other found otherFound
  exact Option.some.inj (found.symm.trans otherFound)

/-- Of two children of one parent none stands below the other. -/
theorem Linked.eq_of_below_sibling {inventory : Inventory} (linked : inventory.Linked)
    {parent left right : Nat} (leftFound : inventory.parent? left = some parent)
    (rightFound : inventory.parent? right = some parent) (below : inventory.Below left right) :
    left = right := by
  -- Otherwise the way up leads over the parent, which comes before both.
  rcases below.cases_head with same | ⟨up, found, rest⟩
  · exact same
  · have same : parent = up := Option.some.inj (leftFound.symm.trans found)
    have before := linked.parent_lt rightFound
    have behind := linked.le_of_below (same ▸ rest)
    omega

/-- Devices stand apart when neither stands at or below the other. -/
def Apart (inventory : Inventory) (left right : Nat) : Prop :=
  ¬ inventory.Below left right ∧ ¬ inventory.Below right left

end Inventory

namespace Branch

/-- What holds of no branches, and of a branch in front of others if it holds of those below its top
and of those others, holds of all branches. -/
theorem forest_induction {motive : List Branch → Prop} (nil : motive [])
    (cons : ∀ position below rest, motive below → motive rest →
      motive (.node position below :: rest)) : ∀ branches, motive branches
  -- What stands below the first top and what stands behind it are both smaller forests.
  | [] => nil
  | .node position below :: rest =>
    cons position below rest (forest_induction nil cons below) (forest_induction nil cons rest)

/-- The positions of the devices of branches, each before those below it. -/
def positions : List Branch → List Nat
  | [] => []
  | .node position below :: rest => position :: (positions below ++ positions rest)

/-- Branches have as many devices as positions. -/
theorem length_positions (branches : List Branch) :
    (positions branches).length = sizeAll branches := by
  -- By induction on the forest: the top counts one, and the positions of both parts are put
  -- together.
  induction branches using forest_induction with
  | nil => simp [positions, sizeAll]
  | cons position below rest belowLength restLength =>
    simp only [positions, List.length_cons, List.length_append, sizeAll, size, belowLength,
      restLength]
    omega

/-- Branches follow an inventory: below each of their devices stand just the shown children. -/
inductive Follow (inventory : Inventory) (shows : Nat → Bool) : List Branch → Prop
  | nil : Follow inventory shows []
  | cons {position : Nat} {below rest : List Branch}
      (tops : below.map Branch.position = (inventory.children position).filter shows)
      (followBelow : Follow inventory shows below) (followRest : Follow inventory shows rest) :
      Follow inventory shows (.node position below :: rest)

section Following

variable {inventory : Inventory} {shows : Nat → Bool}

/-- The top of a grown branch is the position it was grown at. -/
@[simp] theorem position_grow (levels position : Nat) :
    (grow inventory shows levels position).position = position := by
  -- With or without further levels, the top is the position itself.
  cases levels <;> rfl

/-- Grown at several positions, branches have these at their tops. -/
theorem map_position_grow (levels : Nat) (tops : List Nat) :
    (tops.map (grow inventory shows levels)).map Branch.position = tops := by
  -- Growing and reading the top cancel out.
  simp [Function.comp_def]

/-- Growing enough levels follows the inventory, as a child stands behind its parent. -/
theorem grow_follow (linked : inventory.Linked) (levels : Nat) (tops : List Nat)
    (enough : ∀ top ∈ tops, inventory.size ≤ levels + top) :
    Follow inventory shows (tops.map (grow inventory shows levels)) := by
  induction levels generalizing tops with
  | zero =>
    induction tops with
    | nil => exact .nil
    | cons top rest ih =>
      -- A position behind the inventory has no children.
      have behind := enough top (by simp)
      have childless := linked.children_of_size_le (Nat.zero_add top ▸ behind)
      have others := ih fun other member => enough other (by simp [member])
      exact .cons (by simp [childless]) .nil others
  | succ levels deeper =>
    induction tops with
    | nil => exact .nil
    | cons top rest ih =>
      -- The children stand behind the top, so that one level less is enough for them.
      have start := enough top (by simp)
      refine .cons (map_position_grow _ _) (deeper _ ?_)
        (ih fun other member => enough other (by simp [member]))
      intro child member
      have found := (List.mem_filter.mp member).1
      rw [linked.children_eq, Inventory.mem_offspring] at found
      have later := linked.parent_lt found
      omega

/-- The shown children of a device are those whose parent it is. -/
theorem mem_shown_children (linked : inventory.Linked) {parent child : Nat} :
    child ∈ (inventory.children parent).filter shows ↔
      inventory.parent? child = some parent ∧ shows child = true := by
  -- Children by links are those by parent, in a linked inventory.
  rw [linked.children_eq, List.mem_filter, Inventory.mem_offspring]

/-- The shown children of a device stand apart from each other. -/
theorem shown_children_apart (linked : inventory.Linked) (parent : Nat) :
    ((inventory.children parent).filter shows).Pairwise inventory.Apart := by
  -- Different children of one parent cannot stand one below the other.
  rw [linked.children_eq]
  apply ((inventory.offspring_pairwise parent).filter shows).imp_of_mem
  intro left right leftIn rightIn less
  have leftFound := Inventory.mem_offspring.mp (List.mem_filter.mp leftIn).1
  have rightFound := Inventory.mem_offspring.mp (List.mem_filter.mp rightIn).1
  refine ⟨fun below => ?_, fun below => ?_⟩
  · have same := linked.eq_of_below_sibling leftFound rightFound below
    omega
  · have same := linked.eq_of_below_sibling rightFound leftFound below
    omega

/-- Devices at the tops of branches are among those of the branches. -/
theorem tops_subset (branches : List Branch) :
    branches.map Branch.position ⊆ positions branches := by
  -- The first top is the first position, and the other tops stand among the positions behind it.
  induction branches with
  | nil => simp
  | cons first rest ih =>
    obtain ⟨position, below⟩ := first
    intro top member
    rcases List.mem_cons.mp member with rfl | later
    · simp [positions]
    · simp [positions, ih later]

/-- A device of branches is one at the top, or a shown child of another device of them. -/
theorem Follow.top_or_child {branches : List Branch} (follow : Follow inventory shows branches)
    {position : Nat} (member : position ∈ positions branches) :
    position ∈ branches.map Branch.position ∨
      ∃ parent ∈ positions branches, position ∈ (inventory.children parent).filter shows := by
  -- A device below a top is a child of that top, or of a device further down.
  induction follow with
  | nil => simp [positions] at member
  | @cons top below rest tops _ _ belowCase restCase =>
    simp only [positions, List.mem_cons, List.mem_append] at member
    rcases member with rfl | inBelow | inRest
    · left
      simp [Branch.position]
    · right
      rcases belowCase inBelow with isTop | ⟨parent, parentIn, isChild⟩
      · exact ⟨top, by simp [positions], tops ▸ isTop⟩
      · exact ⟨parent, by simp [positions, parentIn], isChild⟩
    · rcases restCase inRest with isTop | ⟨parent, parentIn, isChild⟩
      · left
        simp [isTop]
      · right
        exact ⟨parent, by simp [positions, parentIn], isChild⟩

/-- Branches hold the shown children of each of their devices. -/
theorem Follow.child_mem {branches : List Branch} (follow : Follow inventory shows branches)
    {parent child : Nat} (member : parent ∈ positions branches)
    (isChild : child ∈ (inventory.children parent).filter shows) :
    child ∈ positions branches := by
  -- The shown children of a top are the tops below it, and those of any other device are found
  -- where that device is.
  induction follow with
  | nil => simp [positions] at member
  | @cons top below rest tops _ _ belowCase restCase =>
    simp only [positions, List.mem_cons, List.mem_append] at member ⊢
    rcases member with rfl | inBelow | inRest
    · exact .inr (.inl (tops_subset below (tops ▸ isChild)))
    · exact .inr (.inl (belowCase inBelow))
    · exact .inr (.inr (restCase inRest))

/-- Every device of branches stands at or below the top of one. -/
theorem Follow.below_top (linked : inventory.Linked) {branches : List Branch}
    (follow : Follow inventory shows branches) {position : Nat}
    (member : position ∈ positions branches) :
    ∃ top ∈ branches.map Branch.position, inventory.Below position top := by
  -- A device below a top stands below one of its children, and so one step more below the top.
  induction follow with
  | nil => simp [positions] at member
  | @cons top below rest tops _ _ belowCase restCase =>
    simp only [positions, List.mem_cons, List.mem_append] at member
    rcases member with rfl | inBelow | inRest
    · exact ⟨position, by simp [Branch.position], .refl⟩
    · obtain ⟨child, childIn, under⟩ := belowCase inBelow
      rw [tops, mem_shown_children linked] at childIn
      exact ⟨top, by simp [Branch.position], under.tail childIn.1⟩
    · obtain ⟨other, otherIn, under⟩ := restCase inRest
      exact ⟨other, by simp [otherIn], under⟩

/-- Branches with tops that stand apart hold each device once. -/
theorem Follow.positions_nodup (linked : inventory.Linked) {branches : List Branch}
    (follow : Follow inventory shows branches)
    (apart : (branches.map Branch.position).Pairwise inventory.Apart) :
    (positions branches).Nodup := by
  induction follow with
  | nil => simp [positions]
  | @cons top below rest tops followBelow followRest belowCase restCase =>
    obtain ⟨topApart, restApart⟩ := List.pairwise_cons.mp apart
    -- What stands below the top is no device of the other branches, as their tops are apart.
    have separate : ∀ {position}, inventory.Below position top → position ∉ positions rest := by
      intro position under member
      obtain ⟨other, otherIn, underOther⟩ := followRest.below_top linked member
      have distinct := topApart other otherIn
      rcases Inventory.below_total under underOther with topBelow | otherBelow
      · exact distinct.1 topBelow
      · exact distinct.2 otherBelow
    -- Each device below the top stands below a child of it.
    have under : ∀ {position}, position ∈ positions below → ∃ child,
        inventory.parent? child = some top ∧ inventory.Below position child := by
      intro position member
      obtain ⟨child, childIn, under⟩ := followBelow.below_top linked member
      rw [tops, mem_shown_children linked] at childIn
      exact ⟨child, childIn.1, under⟩
    -- The top is no device below itself, as it comes before its children.
    have fresh : top ∉ positions below := by
      intro member
      obtain ⟨child, found, above⟩ := under member
      have later := linked.parent_lt found
      have before := linked.le_of_below above
      omega
    have belowNodup := belowCase (tops ▸ shown_children_apart linked top)
    rw [positions, List.nodup_cons, List.mem_append, not_or, List.nodup_append]
    refine ⟨⟨fresh, separate .refl⟩, belowNodup, restCase restApart, ?_⟩
    intro left leftIn right rightIn same
    obtain ⟨child, found, above⟩ := under leftIn
    exact separate (above.tail found) (same ▸ rightIn)

end Following

end Branch

end DeviceBrowser

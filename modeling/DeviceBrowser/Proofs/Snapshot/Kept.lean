import DeviceBrowser.Proofs.Snapshot.Branches

/-! The devices that preferences keep are those of the branches that a snapshot starts from. -/

namespace DeviceBrowser

namespace Inventory

/-- Whether the device at a position is one that the preferences include. -/
def Includes (inventory : Inventory) (preferences : Preferences) (position : Nat) : Prop :=
  ∃ device, inventory.device? position = some device ∧ preferences.includes device = true

/-- The positions that preferences keep: the root if it is shown, and the included devices whose
parent is kept or is the hidden root. -/
inductive Kept (inventory : Inventory) (preferences : Preferences) : Nat → Prop
  | root {position : Nat} (isRoot : inventory.root = some position)
      (shown : preferences.showRoot = true) : Kept inventory preferences position
  | top {root position : Nat} (isRoot : inventory.root = some root)
      (hidden : preferences.showRoot = false) (found : inventory.parent? position = some root)
      (included : inventory.Includes preferences position) : Kept inventory preferences position
  | child {parent position : Nat} (kept : Kept inventory preferences parent)
      (found : inventory.parent? position = some parent)
      (included : inventory.Includes preferences position) : Kept inventory preferences position

variable {inventory : Inventory} {preferences : Preferences}

/-- A device without a parent stands below itself only. -/
theorem eq_of_below {position above : Nat} (unlinked : inventory.parent? position = none)
    (below : inventory.Below position above) : position = above := by
  -- The way up has no first step.
  rcases below.cases_head with same | ⟨up, found, _⟩
  · exact same
  · rw [unlinked] at found
    cases found

/-- A kept position is one of the inventory. -/
theorem Kept.lt_size (grown : inventory.Grown) {position : Nat}
    (kept : inventory.Kept preferences position) : position < inventory.size := by
  -- The root is within the inventory, and so is everything that has a parent.
  cases kept with
  | root isRoot _ => exact (grown.root isRoot).1
  | top _ _ found _ => exact lt_size_of_parent? found
  | child _ found _ => exact lt_size_of_parent? found

/-- A kept device stands at or below the root. -/
theorem Kept.below_root {position : Nat} (kept : inventory.Kept preferences position) :
    ∃ root, inventory.root = some root ∧ inventory.Below position root := by
  -- Every kept device but the root is one step below the root or below another kept one.
  induction kept with
  | root isRoot _ => exact ⟨_, isRoot, .refl⟩
  | top isRoot _ found _ => exact ⟨_, isRoot, .single found⟩
  | child _ found _ ih =>
    obtain ⟨root, isRoot, below⟩ := ih
    exact ⟨root, isRoot, .head found below⟩

/-- A root that is hidden is not kept. -/
theorem Grown.not_kept_root (grown : inventory.Grown) {root : Nat}
    (isRoot : inventory.root = some root) (hidden : preferences.showRoot = false) :
    ¬ inventory.Kept preferences root := by
  -- What is kept otherwise has a parent, and the root has none.
  have unlinked := (grown.root isRoot).2
  intro kept
  cases kept with
  | root _ shown => rw [hidden] at shown; cases shown
  | top _ _ found => rw [unlinked] at found; cases found
  | child _ found => rw [unlinked] at found; cases found

/-- A kept device and those above it are included, the root excepted. -/
theorem Kept.includes_above (grown : inventory.Grown) {position : Nat}
    (kept : inventory.Kept preferences position) {above : Nat}
    (below : inventory.Below position above) (other : inventory.root ≠ some above) :
    inventory.Includes preferences above := by
  -- The way up ends at once, or goes on from the parent.
  induction kept with
  | root isRoot _ =>
    have same := eq_of_below (grown.root isRoot).2 below
    exact absurd (same ▸ isRoot) other
  | top isRoot _ found included =>
    rcases below.cases_head with rfl | ⟨up, foundUp, rest⟩
    · exact included
    · have isUp := Option.some.inj (found.symm.trans foundUp)
      subst isUp
      have same := eq_of_below (grown.root isRoot).2 rest
      exact absurd (same ▸ isRoot) other
  | child _ found included ih =>
    rcases below.cases_head with rfl | ⟨up, foundUp, rest⟩
    · exact included
    · exact ih (Option.some.inj (found.symm.trans foundUp) ▸ rest)

end Inventory

namespace Snapshot

open Branch (positions Follow)

variable {inventory : Inventory} {preferences : Preferences}

/-- A device is shown exactly if the preferences include it. -/
theorem shows_iff {position : Nat} :
    shows inventory preferences position = true ↔ inventory.Includes preferences position := by
  -- Both look the device up, and without one neither holds.
  cases found : inventory.entry? position <;>
    simp [shows, Inventory.Includes, Inventory.device?, found]

/-- The branches of a snapshot follow the inventory. -/
theorem branches_follow (linked : inventory.Linked) (root : Nat) :
    Follow inventory (shows inventory preferences) (branches inventory preferences root) := by
  -- Both sorts of branches are grown, from the root or from the shown devices below it.
  rw [branches]
  split
  · exact Branch.grow_follow linked _ [root] (by simp)
  · exact Branch.grow_follow linked _ _ (by simp)

/-- A snapshot starts at the root or at the shown devices below it. -/
theorem map_position_branches (root : Nat) :
    (branches inventory preferences root).map Branch.position =
      if preferences.showRoot then [root]
      else (inventory.children root).filter (shows inventory preferences) := by
  -- Growing leaves the tops where they are.
  rw [branches]
  split
  · simp
  · exact Branch.map_position_grow _ _

/-- The branches of a snapshot hold no device twice. -/
theorem branches_nodup (linked : inventory.Linked) (root : Nat) :
    (positions (branches inventory preferences root)).Nodup := by
  -- The root alone, and children of one parent, stand apart.
  apply (branches_follow linked root).positions_nodup linked
  rw [map_position_branches]
  split
  · exact List.pairwise_singleton _ _
  · exact Branch.shown_children_apart linked root

/-- The devices of the branches are those that the preferences keep. -/
theorem mem_branches_iff (linked : inventory.Linked) {root : Nat}
    (isRoot : inventory.root = some root) {position : Nat} :
    position ∈ positions (branches inventory preferences root) ↔
      inventory.Kept preferences position := by
  have follow : Follow inventory (shows inventory preferences)
      (branches inventory preferences root) := branches_follow linked root
  constructor
  · -- The parent of a device further down comes before it, and is kept by induction.
    induction position using Nat.strongRecOn with
    | ind position earlier =>
      intro member
      rcases follow.top_or_child member with isTop | ⟨parent, parentIn, isChild⟩
      · rw [map_position_branches] at isTop
        split at isTop
        · rename_i shown
          cases List.mem_singleton.mp isTop
          exact .root isRoot shown
        · rename_i hidden
          obtain ⟨found, included⟩ := (Branch.mem_shown_children linked).mp isTop
          exact .top isRoot (by simpa using hidden) found (shows_iff.mp included)
      · obtain ⟨found, included⟩ := (Branch.mem_shown_children linked).mp isChild
        exact .child (earlier parent (linked.parent_lt found) parentIn) found
          (shows_iff.mp included)
  · -- What is kept is at the top or a shown child of what is kept.
    intro kept
    induction kept with
    | root isTop shown =>
      apply Branch.tops_subset
      simp [map_position_branches, shown, Option.some.inj (isTop.symm.trans isRoot)]
    | top isTop hidden found included =>
      apply Branch.tops_subset
      have same := Option.some.inj (isTop.symm.trans isRoot)
      subst same
      rw [map_position_branches, if_neg (by simp [hidden]), Branch.mem_shown_children linked]
      exact ⟨found, shows_iff.mpr included⟩
    | child _ found included parentIn =>
      exact follow.child_mem parentIn
        ((Branch.mem_shown_children linked).mpr ⟨found, shows_iff.mpr included⟩)

/-- The branches that a snapshot of an inventory shows; none if the inventory has no root. -/
def shownBranches (inventory : Inventory) (preferences : Preferences) : List Branch :=
  match inventory.root with
  | none => []
  | some root => branches inventory preferences root

/-- The shown branches follow the inventory. -/
theorem shownBranches_follow (linked : inventory.Linked) :
    Follow inventory (shows inventory preferences) (shownBranches inventory preferences) := by
  -- Without a root there are no branches to look at.
  rw [shownBranches]
  split
  · exact .nil
  · exact branches_follow linked _

/-- The parent of a device at the top is not kept. -/
theorem not_kept_above_top (grown : inventory.Grown)
    {position parent : Nat}
    (isTop : position ∈ (shownBranches inventory preferences).map Branch.position)
    (found : inventory.parent? position = some parent) :
    ¬ inventory.Kept preferences parent := by
  cases isRoot : inventory.root with
  | none => simp [shownBranches, isRoot] at isTop
  | some root =>
    -- Nothing stands above the root, which is kept only where it is shown.
    have unlinked := (grown.root isRoot).2
    simp only [shownBranches, isRoot, map_position_branches] at isTop
    split at isTop
    · cases List.mem_singleton.mp isTop
      rw [unlinked] at found
      cases found
    · rename_i hidden
      have isParent := ((Branch.mem_shown_children grown.linked).mp isTop).1
      cases Option.some.inj (isParent.symm.trans found)
      exact grown.not_kept_root isRoot (by simpa using hidden)

/-- The devices of the shown branches are those that the preferences keep. -/
theorem mem_shownBranches_iff (linked : inventory.Linked) {position : Nat} :
    position ∈ positions (shownBranches inventory preferences) ↔
      inventory.Kept preferences position := by
  -- Without a root nothing is kept, as every kept device stands below one.
  rw [shownBranches]
  cases isRoot : inventory.root with
  | some root => exact mem_branches_iff linked isRoot
  | none =>
    simp only [positions, List.not_mem_nil, false_iff]
    intro kept
    obtain ⟨root, found, _⟩ := kept.below_root
    rw [isRoot] at found
    cases found

/-- The shown branches hold no device twice. -/
theorem shownBranches_nodup (linked : inventory.Linked) :
    (positions (shownBranches inventory preferences)).Nodup := by
  -- Without a root there are no branches to look at.
  rw [shownBranches]
  cases inventory.root with
  | some root => exact branches_nodup linked root
  | none => simp [positions]

end Snapshot

end DeviceBrowser

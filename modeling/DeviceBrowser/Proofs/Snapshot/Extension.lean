import DeviceBrowser.Proofs.Device
import DeviceBrowser.Proofs.Snapshot.PreOrder
import DeviceBrowser.Proofs.Snapshot.Siblings

/-! Showing more devices only adds nodes: each device that had a node keeps one below the same
device, and the new nodes come in between the others, whose order stays. -/

namespace DeviceBrowser

namespace Preferences

/-- Preferences show at most what others show: a switch that shows devices is set in the others too
if it is set, and both agree on the root and on the order of children. -/
structure AtMost (fewer more : Preferences) : Prop where
  disconnected : fewer.showDisconnected = true → more.showDisconnected = true
  softwareComponents : fewer.showSoftwareComponents = true → more.showSoftwareComponents = true
  interfaces : fewer.showInterfaces = true → more.showInterfaces = true
  disabledInterfaces : fewer.showDisabledInterfaces = true → more.showDisabledInterfaces = true
  root : fewer.showRoot = more.showRoot
  order : fewer.sortChildren = more.sortChildren

/-- A device that is included stays included when more is shown. -/
theorem AtMost.includes {fewer more : Preferences} (atMost : fewer.AtMost more) {device : Device}
    (included : fewer.includes device = true) : more.includes device = true := by
  -- Each switch only ever speaks for a device, the one for interfaces together with another.
  rw [Preferences.includes] at included ⊢
  split
  · rename_i isInterface
    rw [if_pos isInterface, Bool.and_eq_true, Bool.or_eq_true] at included
    rw [Bool.and_eq_true, Bool.or_eq_true]
    exact ⟨atMost.interfaces included.1, included.2.imp_left atMost.disabledInterfaces⟩
  · rename_i isInterface
    rw [if_neg isInterface, Bool.or_eq_true, Bool.and_eq_true, Bool.or_eq_true] at included
    rw [Bool.or_eq_true, Bool.and_eq_true, Bool.or_eq_true]
    exact included.imp atMost.disconnected
      (And.imp_left (Or.imp_left atMost.softwareComponents))

end Preferences

namespace Inventory

variable {inventory : Inventory} {fewer more : Preferences} {position parent : Nat}

/-- A device that is kept stays kept when more is shown. -/
theorem Kept.extend (atMost : fewer.AtMost more) (kept : inventory.Kept fewer position) :
    inventory.Kept more position := by
  have widened : ∀ {position}, inventory.Includes fewer position →
      inventory.Includes more position := by
    rintro position ⟨device, found, included⟩
    exact ⟨device, found, atMost.includes included⟩
  -- A position is kept for one of three reasons, and each of them still holds.
  induction kept with
  | root isRoot shown => exact .root isRoot (atMost.root ▸ shown)
  | top isRoot hidden found included =>
    exact .top isRoot (atMost.root ▸ hidden) found (widened included)
  | child _ found included ih => exact .child ih found (widened included)

/-- Showing more does not bring in the parent of a device that was kept without it. -/
theorem Kept.parent_of_extended (grown : inventory.Grown) (atMost : fewer.AtMost more)
    (kept : inventory.Kept fewer position) (found : inventory.parent? position = some parent)
    (extended : inventory.Kept more parent) : inventory.Kept fewer parent := by
  -- Only the root is kept or stands at the top for another reason than a kept parent.
  cases kept with
  | root isRoot _ =>
    rw [(grown.root isRoot).2] at found
    cases found
  | top isRoot hidden isParent _ =>
    cases isParent.symm.trans found
    exact absurd extended (grown.not_kept_root isRoot (atMost.root ▸ hidden))
  | child above isParent _ =>
    cases isParent.symm.trans found
    exact above

end Inventory

namespace Snapshot

section AnyZone

variable {zone : Zone}

variable {edition : Edition} {fewer more : Preferences}

/-! ## The device above a node -/

/-- The position of the device of the node right above a node. -/
def parentItem? (snapshot : Snapshot) (number : Nat) : Option Nat :=
  (snapshot.parent? number).bind snapshot.position?

/-- Right above a node stands the node of the parent of its device, if the parent is kept. -/
theorem parentItem?_build (grown : edition.inventory.Grown) {preferences : Preferences}
    {number parent : Nat} {node : Node}
    (found : (build edition preferences).node? number = some node) :
    (build edition preferences).parentItem? number = some parent ↔
      edition.inventory.parent? node.position = some parent ∧
        edition.inventory.Kept preferences parent := by
  have linked := build_parent grown found
  simp only [parentItem?, parent?, found, Option.bind_some, Option.bind_eq_some_iff, position?,
    Option.map_eq_some_iff]
  -- A link leads to the node of the parent, and the parent has a node exactly if it is kept.
  constructor
  · rintro ⟨up, isParent, above, aboveFound, rfl⟩
    obtain ⟨again, againFound, isAbove⟩ := (linked up).mp isParent
    cases aboveFound.symm.trans againFound
    exact ⟨isAbove, (build_kept grown.linked _).mpr ⟨up, above, aboveFound, rfl⟩⟩
  · rintro ⟨isAbove, kept⟩
    obtain ⟨up, above, aboveFound, rfl⟩ := (build_kept grown.linked _).mp kept
    exact ⟨up, (linked up).mpr ⟨above, aboveFound, isAbove⟩, above, aboveFound, rfl⟩

/-! ## The order of the devices -/

/-- Going down two trees, of which the lists of the first have only devices that those of the second
have in the same order too, meets the devices of the first in the order of the second. -/
theorem PreOrder.map_sublist {small large : Snapshot}
    (lists : ∀ number other, small.position? number = large.position? other →
      (small.items (some number)).Sublist (large.items (some other)))
    {above larger : List Nat} (whole : large.PreOrder above larger) {waiting order : List Nat}
    (part : small.PreOrder waiting order)
    (start : (waiting.map small.position?).Sublist (above.map large.position?)) :
    (order.map small.position?).Sublist (larger.map large.position?) := by
  -- The induction goes down the second tree. A node of it either has no counterpart among those
  -- that wait, or is the counterpart of the first of them.
  induction whole generalizing waiting order with
  | nil =>
    rw [List.map_nil, List.sublist_nil, List.map_eq_nil_iff] at start
    subst start
    cases part
    exact .slnil
  | @cons number rest below after _ _ belowCase afterCase =>
    rw [List.map_cons, List.sublist_cons_iff] at start
    rw [List.map_cons, List.map_append]
    rcases start with passed | ⟨others, split, onwards⟩
    · exact ((afterCase part passed).trans (List.sublist_append_right _ _)).cons _
    · obtain ⟨first, waitingRest, rfl, same, rfl⟩ := List.map_eq_cons_iff.mp split
      cases part with
      | cons down on =>
        rw [List.map_cons, List.map_append, same]
        have inBelow := belowCase down (lists first number same)
        have inAfter := afterCase on onwards
        exact (inBelow.append inAfter).cons_cons _

/-- Arranging more children puts the new ones in between the others. -/
theorem arranged_sublist (atMost : fewer.AtMost more) (inventory : Inventory) (position : Nat) :
    (arranged inventory fewer (shownChildren inventory fewer position)).Sublist
      (arranged inventory more (shownChildren inventory more position)) := by
  -- The children that are shown before are a choice of those shown now, made before or after they
  -- are put in order.
  have chosen : shownChildren inventory fewer position =
      (shownChildren inventory more position).filter (shows inventory fewer) := by
    rw [shownChildren, shownChildren, List.filter_filter]
    apply List.filter_congr
    intro child _
    cases shown : shows inventory fewer child with
    | false => rfl
    | true =>
      obtain ⟨device, found, included⟩ := shows_iff.mp shown
      have still := shows_iff.mpr ⟨device, found, atMost.includes included⟩
      rw [still]
      rfl
  rw [arranged, arranged, atMost.order, chosen]
  split
  · rw [← orderBy_eq_mergeSort, ← orderBy_eq_mergeSort, ← filter_orderBy]
    exact List.filter_sublist
  · exact List.filter_sublist

/-- A list of a snapshot has the devices that it has when more is shown, some left out. -/
theorem items_sublist (linked : edition.inventory.Linked) (atMost : fewer.AtMost more)
    {number other : Nat}
    (same : (build edition fewer).position? number = (build edition more).position? other) :
    ((build edition fewer).items (some number)).Sublist
      ((build edition more).items (some other)) := by
  -- A number without a node lists nothing; otherwise both lists are the shown children of one
  -- device, arranged alike.
  cases found : (build edition fewer).node? number with
  | none => simp [items, children, found]
  | some node =>
    have isOther : ((build edition more).node? other).map (·.position) = some node.position := by
      rw [position?, found] at same
      exact same.symm
    obtain ⟨otherNode, otherFound, samePosition⟩ := Option.map_eq_some_iff.mp isOther
    rw [items_of_device linked (.node found), items_of_device linked (.node otherFound),
      samePosition]
    exact (arranged_sublist atMost _ _).map _

/-- The roots are those that there are when more is shown, some left out. -/
theorem roots_sublist (edition : Edition) (atMost : fewer.AtMost more) :
    ((build edition fewer).items none).Sublist ((build edition more).items none) := by
  rw [items_build_roots, items_build_roots]
  apply List.Sublist.map
  cases isRoot : edition.inventory.root with
  | none => simp [shownBranches, isRoot, arranged]
  | some root =>
    simp only [shownBranches, isRoot, map_position_branches, atMost.root]
    -- Either the root itself is shown in both, or its shown children are.
    split
    · simp [arranged]
    · exact arranged_sublist atMost edition.inventory root

/-! ## What showing more does -/

/-- A snapshot extends another: each device with a node in the one has a node in the other, below
the node of the same device or at the top as before, and the devices of the one in pre-order, by
recursion down its lists, are a subsequence of those of the other. -/
structure Extends (large small : Snapshot) : Prop where
  kept : ∀ number node, small.node? number = some node →
    ∃ other otherNode, large.node? other = some otherNode ∧ otherNode.position = node.position ∧
      large.parentItem? other = small.parentItem? number
  preOrder : small.PreOrder small.roots small.treeOrder ∧
    large.PreOrder large.roots large.treeOrder
  order : (small.treeOrder.map small.position?).Sublist (large.treeOrder.map large.position?)

/-- When more is shown, the snapshot of an inventory extends that of before. -/
theorem build_extends (edition : Edition) (grown : edition.inventory.Grown)
    (atMost : fewer.AtMost more) : (build edition more).Extends (build edition fewer) := by
  have small := (build_listed edition fewer).preOrder_treeOrder
  have large := (build_listed edition more).preOrder_treeOrder
  refine ⟨?_, ⟨small, large⟩, ?_⟩
  · -- A kept device stays kept, and no parent comes between it and the one it had.
    intro number node found
    have kept := (build_kept grown.linked node.position).mpr ⟨number, node, found, rfl⟩
    obtain ⟨other, otherNode, otherFound, same⟩ :=
      (build_kept grown.linked node.position).mp (kept.extend atMost)
    refine ⟨other, otherNode, otherFound, same, ?_⟩
    ext parent
    rw [parentItem?_build grown otherFound, parentItem?_build grown found, same]
    constructor
    · rintro ⟨isParent, extended⟩
      exact ⟨isParent, kept.parent_of_extended grown atMost isParent extended⟩
    · rintro ⟨isParent, parentKept⟩
      exact ⟨isParent, parentKept.extend atMost⟩
  · exact large.map_sublist (fun number other same => items_sublist grown.linked atMost same) small
      (roots_sublist edition atMost)

end AnyZone

/-- A device below which stand a connected one, one that is not and has a connected one below it,
and another connected one. -/
def partlyConnected : Inventory :=
  ((((Inventory.empty.addRoot (.connected "PC")).addChild 0 (.connected "Fan")).addChild 0
    (.ofId "Dock" false)).addChild 2 (.connected "Pen")).addChild 0 (.connected "Camera")

/-- With disconnected devices, one comes between two others by its name, and with it the connected
one that was left out below it. -/
theorem build_extends_dock :
    partlyConnected.Grown ∧
    Preferences.standard.AtMost (Preferences.standard.set .showDisconnected true) ∧
    ((build ⟨1, partlyConnected⟩ .standard).treeOrder.map
      (build ⟨1, partlyConnected⟩ .standard).position?) = [some 0, some 4, some 1] ∧
    ((build ⟨1, partlyConnected⟩ (Preferences.standard.set .showDisconnected true)).treeOrder.map
      (build ⟨1, partlyConnected⟩ (Preferences.standard.set .showDisconnected true)).position?) =
        [some 0, some 4, some 2, some 3, some 1] ∧
    (build ⟨1, partlyConnected⟩ (Preferences.standard.set .showDisconnected true)).Extends
      (build ⟨1, partlyConnected⟩ .standard) := by
  have grown : partlyConnected.Grown :=
    .addChild (.addChild (.addChild (.addChild (.addRoot .empty _) (by decide) _) (by decide) _)
      (by decide) _) (by decide) _
  -- The switches differ in one, and only towards showing more.
  have atMost : Preferences.standard.AtMost (Preferences.standard.set .showDisconnected true) :=
    ⟨by decide, by decide, by decide, by decide, by decide, by decide⟩
  exact ⟨grown, atMost, by decide +kernel, by decide +kernel,
    build_extends ⟨1, partlyConnected⟩ grown atMost⟩

end Snapshot

end DeviceBrowser

import DeviceBrowser.Proofs.Snapshot.WellFormed

/-! The lists of a snapshot hold the shown children of a device in the order in which they were
found, or in that of their names. Putting the nodes in the order of their checksums leaves these
lists. -/

namespace DeviceBrowser

/-- The devices at the tops of branches are those that are numbered. -/
theorem Branch.map_position_tops (first : Nat) (branches : List Branch) :
    (tops first branches).map (·.2) = branches.map position := by
  -- By induction on the branches, of which each is numbered where the one before ends.
  induction branches generalizing first with
  | nil => rfl
  | cons branch rest ih => rw [tops, List.map_cons, List.map_cons, ih]

namespace Numbering

variable (numbering : Numbering)

/-- The number of a top is that of its node. -/
theorem numbered_of_mem_tops (parent : Option Nat) {first : Nat} {branches : List Branch}
    {item : Nat × Nat} (member : item ∈ Branch.tops first branches) :
    ∃ node, (node, item.1) ∈ numbering.numbered parent first branches ∧
      node.position = item.2 := by
  -- Each branch is numbered behind the ones before it.
  induction branches generalizing first with
  | nil => cases member
  | cons branch rest ih =>
    obtain ⟨position, below⟩ := branch
    simp only [numbered_cons, List.mem_cons, List.mem_append]
    rw [Branch.tops] at member
    rcases List.mem_cons.mp member with rfl | later
    · exact ⟨_, .inl rfl, rfl⟩
    · rw [Branch.size, ← Nat.add_assoc] at later
      obtain ⟨node, inRest, same⟩ := ih later
      exact ⟨node, .inr (.inr inRest), same⟩

/-- In branches that follow an inventory, the list of a node is arranged from the nodes of the shown
children of its device. -/
theorem children_of_follow {inventory : Inventory} {shows : Nat → Bool} {parent : Option Nat}
    {first number : Nat} {branches : List Branch}
    (follow : Branch.Follow inventory shows branches) {node : Node}
    (member : (node, number) ∈ numbering.numbered parent first branches) :
    ∃ below : List (Nat × Nat), node.children = numbering.arrange below ∧
      below.map (·.2) = (inventory.children node.position).filter shows ∧
      ∀ item ∈ below, ∃ lower, (lower, item.1) ∈ numbering.numbered parent first branches ∧
        lower.position = item.2 := by
  -- The list of a top is arranged from the tops of the branches below it.
  induction follow generalizing parent first with
  | nil => simp [numbered, nodesAll] at member
  | @cons position below rest shown _ _ belowCase restCase =>
    simp only [numbered_cons, List.mem_cons, List.mem_append] at member ⊢
    rcases member with isTop | inBelow | inRest
    · cases isTop
      refine ⟨Branch.tops (number + 1) below, rfl, ?_, ?_⟩
      · rw [Branch.map_position_tops, shown]
      · intro item isListed
        obtain ⟨lower, inBelow, same⟩ := numbering.numbered_of_mem_tops (some number) isListed
        exact ⟨lower, .inr (.inl inBelow), same⟩
    · -- The node is deeper or in a later branch: its list is the one there, over fewer branches.
      obtain ⟨tops, arranged, children, standFor⟩ := belowCase inBelow
      refine ⟨tops, arranged, children, ?_⟩
      intro item isListed
      obtain ⟨lower, lowerIn, same⟩ := standFor item isListed
      exact ⟨lower, .inr (.inl lowerIn), same⟩
    · obtain ⟨tops, arranged, children, standFor⟩ := restCase inRest
      refine ⟨tops, arranged, children, ?_⟩
      intro item isListed
      obtain ⟨lower, lowerIn, same⟩ := standFor item isListed
      exact ⟨lower, .inr (.inr lowerIn), same⟩

end Numbering

namespace Snapshot

section AnyZone

variable {zone : Zone}

variable {inventory : Inventory} {edition : Edition} {preferences : Preferences}

/-! ## The order of siblings -/

/-- Compares two devices of an inventory by their names. -/
def compareNames [Zone] (inventory : Inventory) (left right : Nat) : Ordering :=
  Text.compareIgnoringCase (nameAt inventory left) (nameAt inventory right)

/-- Devices are ordered by the lower case of their names. -/
instance : Std.TransCmp (compareNames inventory) :=
  inferInstanceAs (Std.TransCmp
    (compareOn fun position => Text.lowerChars (nameAt inventory position).toList))

/-- Devices in the order of siblings: in the stable order of their names, or as they are. -/
def arranged [Zone] (inventory : Inventory) (preferences : Preferences) (positions : List Nat) :
    List Nat :=
  if preferences.sortChildren then
    positions.mergeSort fun left right => (compareNames inventory left right).isLE
  else positions

/-- The shown children of a device, in the order in which they were found. -/
def shownChildren (inventory : Inventory) (preferences : Preferences) (position : Nat) : List Nat :=
  (inventory.children position).filter (shows inventory preferences)

/-- Numbered siblings are arranged as their devices are. -/
theorem arrangement_eq_map (tops : List (Nat × Nat)) : ∃ moved : List (Nat × Nat),
    moved.Perm tops ∧ arrangement inventory preferences tops = moved.map (·.1) ∧
      arranged inventory preferences (tops.map (·.2)) = moved.map (·.2) := by
  rw [arrangement, arranged]
  split
  · -- The siblings are ordered by their devices alone.
    refine ⟨_, orderBy_perm _ _, rfl, ?_⟩
    rw [← orderBy_eq_mergeSort, ← orderBy_map]
    rfl
  · exact ⟨tops, .refl _, rfl, rfl⟩

/-! ## The devices of a list -/

/-- The position of a node's device. -/
def position? (snapshot : Snapshot) (number : Nat) : Option Nat :=
  (snapshot.node? number).map (·.position)

/-- The devices of the list of a node, or of the roots. -/
def items (snapshot : Snapshot) (parent : Option Nat) : List (Option Nat) :=
  (snapshot.children parent).map snapshot.position?

/-- Where numbered siblings are nodes of their devices, arranging them arranges the devices. -/
theorem map_position?_arrangement {snapshot : Snapshot} {tops : List (Nat × Nat)}
    (standFor : ∀ item ∈ tops, snapshot.position? item.1 = some item.2) :
    (arrangement inventory preferences tops).map snapshot.position? =
      (arranged inventory preferences (tops.map (·.2))).map some := by
  -- Arranging moves number and device together, so it does not matter which of them is read first.
  obtain ⟨moved, perm, numbers, positions⟩ := arrangement_eq_map tops
  rw [numbers, positions, List.map_map, List.map_map]
  apply List.map_congr_left
  intro item member
  exact standFor item (perm.mem_iff.mp member)

/-- Putting nodes in the order of their checksums leaves the devices of each list and their order.
-/
theorem items_ofNodes {nodes : Array Node} {roots : List Nat}
    (listed : (Snapshot.mk edition nodes roots).Listed) {parent : Option Nat}
    (within : ∀ old, parent = some old → old < nodes.size) :
    (ofNodes edition nodes roots).items (parent.map (renumber nodes)) =
      (Snapshot.mk edition nodes roots).items parent := by
  rw [items, items, children_ofNodes _ _ _ within, List.map_map]
  apply List.map_congr_left
  intro old member
  -- The node at the new number is that of the old one with other links.
  have present : old < nodes.size := listed.lt_size member
  rw [Function.comp_apply, position?, node?_renumber _ _ _ present, position?, node?]
  simp [relink, present]

/-- Before nodes are put in order, a numbered node is the one at its number. -/
theorem position?_of_numbered {node : Node} {number : Nat}
    (member : (node, number) ∈ (numbering edition.inventory preferences).numbered none 0
      (shownBranches edition.inventory preferences)) :
    (unordered edition preferences).position? number = some node.position := by
  -- Numbers are places among the drafts.
  have found := (Numbering.mem_numbered _).mp member
  simp [position?, node?, unordered, drafts, found]

/-- Before nodes are put in order, the list of a node has the shown children of its device. -/
theorem items_unordered (linked : edition.inventory.Linked) {number : Nat} {node : Node}
    (found : (unordered edition preferences).node? number = some node) :
    (unordered edition preferences).items (some number) =
      (arranged edition.inventory preferences
        (shownChildren edition.inventory preferences node.position)).map some := by
  have member : (node, number) ∈ (numbering edition.inventory preferences).numbered none 0
      (shownBranches edition.inventory preferences) := by
    apply (Numbering.mem_numbered _).mpr
    simpa [node?, unordered, drafts] using found
  -- The numbering tells the list of a node: the shown children of its device, numbered and
  -- arranged.
  obtain ⟨below, isArranged, shown, standFor⟩ :=
    Numbering.children_of_follow _ (shownBranches_follow linked) member
  have list : (unordered edition preferences).children (some number) =
      arrangement edition.inventory preferences below := by
    simp only [children, found]
    exact isArranged
  rw [items, list, shownChildren, ← shown]
  apply map_position?_arrangement
  intro item isListed
  obtain ⟨lower, lowerIn, same⟩ := standFor item isListed
  rw [position?_of_numbered lowerIn, same]

/-- Before nodes are put in order, the roots are the tops of the shown branches. -/
theorem items_unordered_roots (edition : Edition) (preferences : Preferences) :
    (unordered edition preferences).items none =
      (arranged edition.inventory preferences
        ((shownBranches edition.inventory preferences).map Branch.position)).map some := by
  -- The tops are numbered too, and each number is that of a node for its device.
  rw [← Branch.map_position_tops 0]
  apply map_position?_arrangement
  intro item isListed
  obtain ⟨node, member, same⟩ := Numbering.numbered_of_mem_tops _ none isListed
  rw [position?_of_numbered member, same]

/-! ## The lists of a snapshot -/

/-- A list of a snapshot belongs to a device: that of a node to the node's, and the roots to the
root of the inventory where it is not shown itself. -/
inductive OfDevice (snapshot : Snapshot) (preferences : Preferences) : Option Nat → Nat → Prop
  | node {number : Nat} {node : Node} (found : snapshot.node? number = some node) :
      OfDevice snapshot preferences (some number) node.position
  | roots {root : Nat} (hidden : preferences.showRoot = false)
      (isRoot : snapshot.edition.inventory.root = some root) :
      OfDevice snapshot preferences none root

/-- The lists of a snapshot hold the kept children of the devices that they belong to, in the order
in which these were found, which is that of their positions. Where siblings are sorted, a list is in
the stable order of the names with the case ignored, so that those of equal names stay as they were
found. Only a shown root stands alone. The nodes were put in the order of their checksums last, and
the lists of the nodes as they were numbered first have the same devices in the same order. -/
structure ListsSiblings [Zone] (snapshot : Snapshot) (edition : Edition)
    (preferences : Preferences) : Prop where
  unsorted : preferences.sortChildren = false → ∀ parent position,
    snapshot.OfDevice preferences parent position →
      snapshot.items parent = (shownChildren edition.inventory preferences position).map some
  sorted : preferences.sortChildren = true → ∀ parent position,
    snapshot.OfDevice preferences parent position →
      snapshot.items parent = ((shownChildren edition.inventory preferences position).mergeSort
        fun left right => (Text.compareIgnoringCase (nameAt edition.inventory left)
          (nameAt edition.inventory right)).isLE).map some
  ties : preferences.sortChildren = true → ∀ parent position,
    snapshot.OfDevice preferences parent position → ∀ earlier later,
      [earlier, later].Sublist (shownChildren edition.inventory preferences position) →
      Text.compareIgnoringCase (nameAt edition.inventory earlier)
        (nameAt edition.inventory later) = .eq →
      [some earlier, some later].Sublist (snapshot.items parent)
  kept : ∀ parent position, snapshot.OfDevice preferences parent position → ∀ child,
    child ∈ shownChildren edition.inventory preferences position ↔
      edition.inventory.parent? child = some position ∧ edition.inventory.Kept preferences child
  found : ∀ position, (shownChildren edition.inventory preferences position).Pairwise (· < ·)
  shownRoot : preferences.showRoot = true → ∀ root, edition.inventory.root = some root →
    snapshot.items none = [some root]
  rootless : edition.inventory.root = none → snapshot.items none = []
  reorders : snapshot = ofNodes edition (unordered edition preferences).nodes
    (unordered edition preferences).roots
  reordered : ∀ parent : Option Nat,
    (∀ old, parent = some old → old < (unordered edition preferences).size) →
      snapshot.items (parent.map (renumber (unordered edition preferences).nodes)) =
        (unordered edition preferences).items parent

/-- A list of a snapshot has the devices that it had before the nodes were put in order. -/
theorem items_build (edition : Edition) (preferences : Preferences) {parent : Option Nat}
    (within : ∀ old, parent = some old → old < (unordered edition preferences).size) :
    (build edition preferences).items
        (parent.map (renumber (unordered edition preferences).nodes)) =
      (unordered edition preferences).items parent := by
  -- Renumbering goes through a list and through the places it names alike.
  rw [build_eq]
  exact items_ofNodes (unordered_listed edition preferences) within

/-- The roots of a snapshot are the tops of the shown branches. -/
theorem items_build_roots (edition : Edition) (preferences : Preferences) :
    (build edition preferences).items none = (arranged edition.inventory preferences
      ((shownBranches edition.inventory preferences).map Branch.position)).map some := by
  -- The roots need no number of their own to be renumbered.
  rw [← items_unordered_roots]
  exact @items_build _ edition preferences none (by simp)

/-- A list of a snapshot arranges the shown children of the device that it belongs to. -/
theorem items_of_device (linked : edition.inventory.Linked) {parent : Option Nat} {position : Nat}
    (ofDevice : (build edition preferences).OfDevice preferences parent position) :
    (build edition preferences).items parent = (arranged edition.inventory preferences
      (shownChildren edition.inventory preferences position)).map some := by
  cases ofDevice with
  | node found =>
    -- The node was numbered, and its list was made, before the nodes were put in order.
    obtain ⟨old, draft, draftFound, rfl, rfl⟩ := node?_build.mp found
    have present : (unordered edition preferences).node? old = some draft := by
      simpa [node?, unordered] using draftFound
    have within : old < (unordered edition preferences).size :=
      (Array.getElem?_eq_some_iff.mp present).1
    have moved := @items_build _ edition preferences (some old) (by simpa using within)
    have before := items_unordered linked present
    exact moved.trans before
  | roots hidden isRoot =>
    rw [edition_build] at isRoot
    simp [items_build_roots, shownBranches, isRoot, map_position_branches, hidden, shownChildren]

/-- The shown children of a device that a list belongs to are kept. -/
theorem mem_shownChildren_iff (grown : edition.inventory.Grown) {parent : Option Nat}
    {position : Nat} (ofDevice : (build edition preferences).OfDevice preferences parent position)
    (child : Nat) : child ∈ shownChildren edition.inventory preferences position ↔
      edition.inventory.parent? child = some position ∧
        edition.inventory.Kept preferences child := by
  rw [shownChildren, Branch.mem_shown_children grown.linked, shows_iff]
  constructor
  · rintro ⟨isChild, included⟩
    refine ⟨isChild, ?_⟩
    -- The device is kept, or it is the root that is not shown.
    cases ofDevice with
    | node found =>
      have kept := (build_kept grown.linked _).mpr ⟨_, _, found, rfl⟩
      exact .child kept isChild included
    | roots hidden isRoot =>
      rw [edition_build] at isRoot
      exact .top isRoot hidden isChild included
  · rintro ⟨isChild, kept⟩
    refine ⟨isChild, ?_⟩
    cases kept with
    | root isRoot =>
      rw [(grown.root isRoot).2] at isChild
      cases isChild
    | top _ _ _ included => exact included
    | child _ _ included => exact included

/-- A snapshot of any grown inventory, under any preferences, lists siblings in their order. -/
theorem build_listsSiblings (edition : Edition) (grown : edition.inventory.Grown)
    (preferences : Preferences) :
    (build edition preferences).ListsSiblings edition preferences where
  -- A list is the arranged offspring of a device, and the clauses read off what arranging does.
  unsorted asFound parent position ofDevice := by
    rw [items_of_device grown.linked ofDevice, arranged, if_neg (by simp [asFound])]
  sorted byName parent position ofDevice := by
    rw [items_of_device grown.linked ofDevice, arranged, if_pos byName]
    rfl
  ties byName parent position ofDevice earlier later before same := by
    have atMost : (compareNames edition.inventory earlier later).isLE = true := by
      rw [compareNames, same]
      rfl
    rw [items_of_device grown.linked ofDevice, arranged, if_pos byName]
    exact (List.pair_sublist_mergeSort (fun _ _ _ => Std.TransCmp.isLE_trans) (isLE_total _)
      atMost before).map some
  kept _ _ ofDevice := mem_shownChildren_iff grown ofDevice
  found position := by
    rw [shownChildren, grown.linked.children_eq]
    exact (edition.inventory.offspring_pairwise position).filter _
  shownRoot shown root isRoot := by
    simp [items_build_roots, shownBranches, isRoot, map_position_branches, shown, arranged]
  rootless isRoot := by
    simp [items_build_roots, shownBranches, isRoot, arranged]
  reorders := build_eq edition preferences
  reordered _ within := items_build edition preferences within

end AnyZone

/-- A device with three below it, of which the first and the last differ in the case of their names
only and so have the same checksum. -/
def fanBetweenPorts : Inventory :=
  (((Inventory.empty.addRoot (.ofId "PC" false)).addChild 0 (.ofId "Port" false)).addChild 0
    (.ofId "Fan" false)).addChild 0 (.ofId "PORT" false)

/-- The devices without the root, sorted by their names. -/
def sortedByName : Preferences :=
  { Preferences.standard.set .showDisconnected true with showRoot := false, sortChildren := true }

/-- Of three siblings the second comes first by its name, and the two others stay as they were
found, although all nodes stand in the order of their checksums. -/
theorem build_listsSiblings_ports :
    fanBetweenPorts.Grown ∧
    (build ⟨1, fanBetweenPorts⟩ sortedByName).nodes.map (·.position) = #[1, 3, 2] ∧
    (build ⟨1, fanBetweenPorts⟩ sortedByName).items none = [some 2, some 1, some 3] ∧
    (build ⟨1, fanBetweenPorts⟩ sortedByName).ListsSiblings ⟨1, fanBetweenPorts⟩ sortedByName := by
  -- The names of two of them differ by case only.
  have grown : fanBetweenPorts.Grown :=
    .addChild (.addChild (.addChild (.addRoot .empty _) (by decide) _) (by decide) _) (by decide) _
  exact ⟨grown, by decide +kernel, by decide +kernel,
    build_listsSiblings ⟨1, fanBetweenPorts⟩ grown sortedByName⟩

end Snapshot

end DeviceBrowser

import DeviceBrowser.Proofs.Snapshot.Kept
import DeviceBrowser.Proofs.Snapshot.Numbering
import DeviceBrowser.Proofs.Snapshot.Renumbering

/-! A snapshot mirrors its inventory: its nodes are the devices that the preferences keep, linked to
each other as the inventory links them, in the order of their checksums. -/

namespace DeviceBrowser.Snapshot

section AnyZone

variable {zone : Zone}

/-- Arranging siblings loses and repeats none of their numbers. -/
theorem arrangement_perm (inventory : Inventory) (preferences : Preferences)
    (tops : List (Nat × Nat)) :
    (arrangement inventory preferences tops).Perm (tops.map (·.1)) := by
  -- Siblings are put in order or left as they are.
  rw [arrangement]
  apply List.Perm.map
  split
  · exact orderBy_perm _ _
  · exact List.Perm.refl _

/-- Numbered branches are linked down as they are linked up. -/
theorem numbering_listed (numbering : Numbering)
    (arranged : ∀ tops, (numbering.arrange tops).Perm (tops.map (·.1))) (edition : Edition)
    (branches : List Branch) :
    (Snapshot.mk edition (numbering.nodesAll none 0 branches).toArray
      (numbering.arrange (Branch.tops 0 branches))).Listed := by
  -- Each list arranges the numbers of the nodes whose parent it belongs to.
  have lists : ∀ parent, ((Snapshot.mk edition (numbering.nodesAll none 0 branches).toArray
      (numbering.arrange (Branch.tops 0 branches))).children parent).Perm
      (Numbering.numbersUnder parent (numbering.numbered none 0 branches)) := by
    intro parent
    cases parent with
    | none =>
      rw [numbering.numbersUnder_parent 0 branches (by simp)]
      exact arranged _
    | some number =>
      -- A number beyond the nodes has no list, and is no node's parent.
      cases found : (numbering.nodesAll none 0 branches)[number]? with
      | some node =>
        obtain ⟨tops, isArranged, under⟩ :=
          numbering.children_of_mem (by simp) (numbering.mem_numbered.mpr found)
        rw [under]
        simpa [children, node?, found, isArranged] using arranged tops
      | none =>
        have beyond := List.getElem?_eq_none_iff.mp found
        rw [numbering.length_nodesAll] at beyond
        rw [numbering.numbersUnder_outside 0 branches (by simp) (by simp; omega)]
        simp [children, node?, found]
  constructor
  · intro parent
    exact (lists parent).nodup_iff.mpr (numbering.numbersUnder_nodup none 0 branches parent)
  · intro parent child
    rw [(lists parent).mem_iff, numbering.mem_numbersUnder]
    simp [node?]

/-! ## The nodes of a snapshot -/

/-- How a snapshot numbers its nodes. -/
def numbering [Zone] (inventory : Inventory) (preferences : Preferences) : Numbering where
  hashOf := hashAt inventory
  arrange := arrangement inventory preferences

/-- The nodes of a snapshot before they are put in order. -/
def drafts [Zone] (inventory : Inventory) (preferences : Preferences) : List Node :=
  (numbering inventory preferences).nodesAll none 0 (shownBranches inventory preferences)

/-- A snapshot whose nodes stand as they were numbered, each before those below it. -/
def unordered [Zone] (edition : Edition) (preferences : Preferences) : Snapshot where
  edition := edition
  nodes := (drafts edition.inventory preferences).toArray
  roots := arrangement edition.inventory preferences
    (Branch.tops 0 (shownBranches edition.inventory preferences))

/-- The lists of the nodes as they were numbered agree with the links up. -/
theorem unordered_listed [Zone] (edition : Edition) (preferences : Preferences) :
    (unordered edition preferences).Listed :=
  -- This holds of any numbering that arranges siblings by moving them.
  numbering_listed (numbering edition.inventory preferences) (arrangement_perm _ _) edition _

/-- A snapshot puts the nodes of the shown branches in order. -/
theorem build_eq [Zone] (edition : Edition) (preferences : Preferences) :
    build edition preferences =
      ofNodes edition (drafts edition.inventory preferences).toArray
        (arrangement edition.inventory preferences
          (Branch.tops 0 (shownBranches edition.inventory preferences))) := by
  -- An inventory without a root has no branches, and so no drafts.
  cases isRoot : edition.inventory.root with
  | some root => simp [build, drafts, shownBranches, isRoot, numbering]
  | none =>
    simp [build, drafts, shownBranches, isRoot, Numbering.nodesAll, Branch.tops, ofNodes_eq,
      arrangement, orderBy]

variable {edition : Edition} {preferences : Preferences}

/-- The nodes of a snapshot are the drafts, renumbered. -/
theorem node?_build {number : Nat} {node : Node} :
    (build edition preferences).node? number = some node ↔
      ∃ old draft, (drafts edition.inventory preferences)[old]? = some draft ∧
        renumber (drafts edition.inventory preferences).toArray old = number ∧
        relink (renumber (drafts edition.inventory preferences).toArray) draft = node := by
  -- Building is numbering followed by sorting, of which the latter was described for any nodes.
  rw [build_eq, node?_ofNodes]
  simp

/-- The position of a draft is kept. -/
theorem kept_of_draft (linked : edition.inventory.Linked) {old : Nat} {draft : Node}
    (found : (drafts edition.inventory preferences)[old]? = some draft) :
    edition.inventory.Kept preferences draft.position := by
  -- The drafts are those of the shown branches, which hold just what is kept.
  apply (mem_shownBranches_iff linked).mp
  rw [← Numbering.map_position_nodesAll]
  exact List.mem_map_of_mem (List.mem_of_getElem? found)

/-- No two drafts have the same position. -/
theorem draft_unique (linked : edition.inventory.Linked) {left right : Nat}
    {leftDraft rightDraft : Node}
    (leftFound : (drafts edition.inventory preferences)[left]? = some leftDraft)
    (rightFound : (drafts edition.inventory preferences)[right]? = some rightDraft)
    (same : leftDraft.position = rightDraft.position) : left = right := by
  -- The positions of the drafts are those of the branches, which hold none twice.
  have distinct : ((drafts edition.inventory preferences).map (·.position)).Nodup := by
    rw [drafts, Numbering.map_position_nodesAll]
    exact shownBranches_nodup linked
  have within : left < ((drafts edition.inventory preferences).map (·.position)).length := by
    rw [List.length_map]
    exact (List.getElem?_eq_some_iff.mp leftFound).1
  apply (List.getElem?_inj within distinct).mp
  simp [leftFound, rightFound, same]

/-- A draft is linked up exactly to the draft of the parent of its device. -/
theorem draft_parent_iff (grown : edition.inventory.Grown) {old up : Nat} {draft : Node}
    (found : (drafts edition.inventory preferences)[old]? = some draft) :
    draft.parent = some up ↔ ∃ above, (drafts edition.inventory preferences)[up]? = some above ∧
      edition.inventory.parent? draft.position = some above.position := by
  -- A draft at the top is linked to none, and the parent of its device is not kept; further down
  -- the link leads to the draft of the parent, which is the only one.
  have linked := grown.linked
  have member := (numbering edition.inventory preferences).mem_numbered.mpr found
  rcases Numbering.above_of_mem _ linked (shownBranches_follow linked) member with
    ⟨unlinked, isTop⟩ | ⟨linkUp, above, toAbove, aboveIn, isParent⟩
  · rw [unlinked]
    constructor
    · intro impossible
      cases impossible
    · rintro ⟨above, aboveFound, isParent⟩
      exact absurd (kept_of_draft linked aboveFound) (not_kept_above_top grown isTop isParent)
  · have aboveFound := (Numbering.mem_numbered _).mp aboveIn
    rw [toAbove, Option.some.injEq]
    constructor
    · rintro rfl
      exact ⟨above, aboveFound, isParent⟩
    · rintro ⟨other, otherFound, otherParent⟩
      exact draft_unique linked aboveFound otherFound
        (Option.some.inj (isParent.symm.trans otherParent))

/-! ## What a snapshot mirrors -/

/-- The parent that a node is linked to. -/
def parent? (snapshot : Snapshot) (number : Nat) : Option Nat :=
  (snapshot.node? number).bind (·.parent)

/-- A snapshot mirrors an edition under preferences. Its nodes stand in the order of their
checksums, one for each device that the preferences keep. A device that is not included is left out
with all below it, and so are devices that do not stand below the root. The lists of a node and of
the roots hold the nodes linked up to it, once each, and a node is linked up exactly to the node of
its device's parent, so that no node is above itself. -/
structure Mirrors (snapshot : Snapshot) (edition : Edition) (preferences : Preferences) : Prop where
  edition_eq : snapshot.edition = edition
  ordered : snapshot.nodes.toList.Pairwise fun earlier later => earlier.hash ≤ later.hash
  hash : ∀ number node, snapshot.node? number = some node →
    ∃ device, edition.inventory.device? node.position = some device ∧ node.hash = device.hash
  kept : ∀ position, edition.inventory.Kept preferences position ↔
    ∃ number node, snapshot.node? number = some node ∧ node.position = position
  distinct : ∀ left right leftNode rightNode, snapshot.node? left = some leftNode →
    snapshot.node? right = some rightNode → leftNode.position = rightNode.position → left = right
  pruned : ∀ number node, snapshot.node? number = some node →
    ∀ above, edition.inventory.Below node.position above → edition.inventory.root ≠ some above →
      edition.inventory.Includes preferences above
  rooted : ∀ number node, snapshot.node? number = some node →
    ∃ root, edition.inventory.root = some root ∧ edition.inventory.Below node.position root
  listed : snapshot.Listed
  parent : ∀ number node, snapshot.node? number = some node → ∀ up, node.parent = some up ↔
    ∃ above, snapshot.node? up = some above ∧
      edition.inventory.parent? node.position = some above.position
  acyclic : ∀ number, ¬ Relation.TransGen
    (fun child parent => snapshot.parent? child = some parent) number number

/-- The lists of a snapshot agree with the links up. -/
theorem build_listed [Zone] (edition : Edition) (preferences : Preferences) :
    (build edition preferences).Listed := by
  -- Sorting keeps lists and links in agreement.
  rw [build_eq]
  exact (unordered_listed edition preferences).ofNodes

/-- A node has the checksum of its device. -/
theorem build_hash (grown : edition.inventory.Grown) {number : Nat} {node : Node}
    (found : (build edition preferences).node? number = some node) :
    ∃ device, edition.inventory.device? node.position = some device ∧
      node.hash = device.hash := by
  -- The checksum of a draft was read from its device.
  obtain ⟨old, draft, draftFound, rfl, rfl⟩ := node?_build.mp found
  have within := (kept_of_draft grown.linked draftFound).lt_size grown
  have present : edition.inventory.entry? draft.position =
      some edition.inventory.entries[draft.position] := Array.getElem?_eq_getElem within
  have hashed := Numbering.hash_of_mem _ (List.mem_of_getElem? draftFound)
  refine ⟨edition.inventory.entries[draft.position].device, ?_, ?_⟩
  · simp [relink, Inventory.device?, present]
  · simp [relink, hashed, numbering, hashAt, present]

/-- The nodes are those of the kept devices. -/
theorem build_kept (linked : edition.inventory.Linked) (position : Nat) :
    edition.inventory.Kept preferences position ↔
      ∃ number node, (build edition preferences).node? number = some node ∧
        node.position = position := by
  -- Drafts stand for the devices of the branches, and renumbering leaves their positions.
  constructor
  · intro kept
    have member := (mem_shownBranches_iff linked).mpr kept
    rw [← (numbering edition.inventory preferences).map_position_nodesAll none 0,
      List.mem_map] at member
    obtain ⟨draft, draftIn, rfl⟩ := member
    obtain ⟨old, draftFound⟩ := List.getElem?_of_mem draftIn
    exact ⟨_, _, node?_build.mpr ⟨old, draft, draftFound, rfl, rfl⟩, rfl⟩
  · rintro ⟨number, node, found, rfl⟩
    obtain ⟨old, draft, draftFound, rfl, rfl⟩ := node?_build.mp found
    have kept := kept_of_draft linked draftFound
    exact kept

/-- Nodes of one device are the same. -/
theorem build_distinct (linked : edition.inventory.Linked) {left right : Nat}
    {leftNode rightNode : Node}
    (leftFound : (build edition preferences).node? left = some leftNode)
    (rightFound : (build edition preferences).node? right = some rightNode)
    (same : leftNode.position = rightNode.position) : left = right := by
  -- Two nodes of one device come from the same draft.
  obtain ⟨_, leftDraft, leftDraftFound, rfl, rfl⟩ := node?_build.mp leftFound
  obtain ⟨_, rightDraft, rightDraftFound, rfl, rfl⟩ := node?_build.mp rightFound
  rw [draft_unique linked leftDraftFound rightDraftFound same]

/-- A node is linked up exactly to the node of its device's parent. -/
theorem build_parent (grown : edition.inventory.Grown) {number : Nat} {node : Node}
    (found : (build edition preferences).node? number = some node) (up : Nat) :
    node.parent = some up ↔ ∃ above, (build edition preferences).node? up = some above ∧
      edition.inventory.parent? node.position = some above.position := by
  -- Links of nodes and links of drafts are renumbered alike.
  obtain ⟨old, draft, draftFound, rfl, rfl⟩ := node?_build.mp found
  constructor
  · intro linkedUp
    obtain ⟨oldUp, isParent, rfl⟩ := Option.map_eq_some_iff.mp linkedUp
    obtain ⟨above, aboveFound, parentFound⟩ := (draft_parent_iff grown draftFound).mp isParent
    exact ⟨_, node?_build.mpr ⟨oldUp, above, aboveFound, rfl, rfl⟩, parentFound⟩
  · rintro ⟨_, aboveFound, parentFound⟩
    obtain ⟨oldUp, above, aboveDraftFound, rfl, rfl⟩ := node?_build.mp aboveFound
    have isParent := (draft_parent_iff grown draftFound).mpr ⟨above, aboveDraftFound, parentFound⟩
    simp [relink, isParent]

/-- Further up stand nodes of devices that were found earlier. -/
theorem build_above (grown : edition.inventory.Grown) {number above : Nat} {node : Node}
    (found : (build edition preferences).node? number = some node)
    (climbed : Relation.TransGen (fun child parent =>
      (build edition preferences).parent? child = some parent) number above) :
    ∃ aboveNode, (build edition preferences).node? above = some aboveNode ∧
      aboveNode.position < node.position := by
  -- Each link leads to the node of a parent, which comes before its child in the inventory.
  have step : ∀ {child parent childNode},
      (build edition preferences).node? child = some childNode →
      (build edition preferences).parent? child = some parent →
      ∃ parentNode, (build edition preferences).node? parent = some parentNode ∧
        parentNode.position < childNode.position := by
    intro child parent childNode childFound linkedUp
    have isParent : childNode.parent = some parent := by simpa [parent?, childFound] using linkedUp
    obtain ⟨parentNode, parentFound, foundAbove⟩ :=
      (build_parent grown childFound parent).mp isParent
    exact ⟨parentNode, parentFound, grown.linked.parent_lt foundAbove⟩
  induction climbed with
  | single linkedUp => exact step found linkedUp
  | tail _ linkedUp ih =>
    obtain ⟨middleNode, middleFound, before⟩ := ih
    obtain ⟨aboveNode, aboveFound, earlier⟩ := step middleFound linkedUp
    exact ⟨aboveNode, aboveFound, Nat.lt_trans earlier before⟩

/-- A snapshot that is built of some grown inventory. -/
def Built [Zone] (snapshot : Snapshot) : Prop :=
  ∃ edition preferences, edition.inventory.Grown ∧ snapshot = build edition preferences

/-- Building from a grown inventory gives a built snapshot. -/
theorem built_build {edition : Edition} (grown : edition.inventory.Grown)
    (preferences : Preferences) : (build edition preferences).Built :=
  ⟨edition, preferences, grown, rfl⟩

/-- The lists of a built snapshot agree with the links up. -/
theorem Built.listed {snapshot : Snapshot} (built : snapshot.Built) : snapshot.Listed := by
  -- A built snapshot is the result of building.
  obtain ⟨edition, preferences, _, rfl⟩ := built
  exact build_listed edition preferences

/-- The device of a node is that of the inventory at the node's position. -/
theorem device?_eq_bind (snapshot : Snapshot) (number : Nat) : snapshot.device? number =
    (snapshot.node? number).bind fun node => snapshot.edition.inventory.device? node.position := by
  -- Going through the entry or asking for the device at once comes to the same.
  rw [device?, Snapshot.entry?, Option.map_bind]
  rfl

/-- A node has a device when the inventory has one at its position. -/
theorem device?_eq_some_iff {snapshot : Snapshot} {number : Nat} {device : Device} :
    snapshot.device? number = some device ↔ ∃ node, snapshot.node? number = some node ∧
      snapshot.edition.inventory.device? node.position = some device := by
  -- Both the node and the device have to be there.
  rw [device?_eq_bind, Option.bind_eq_some_iff]

/-- Every node of a built snapshot has a device. -/
theorem Built.device {snapshot : Snapshot} (built : snapshot.Built) {number : Nat}
    (within : number < snapshot.size) : ∃ device, snapshot.device? number = some device := by
  -- A node stands for a device of the inventory that its snapshot was built from.
  obtain ⟨edition, preferences, grown, rfl⟩ := built
  have found : (build edition preferences).node? number =
      some (build edition preferences).nodes[number] := Array.getElem?_eq_getElem within
  obtain ⟨device, present, _⟩ := build_hash grown found
  refine ⟨device, device?_eq_some_iff.mpr ⟨_, found, ?_⟩⟩
  rw [edition_build]
  exact present

/-- The checksum of a node of a built snapshot is that of its device. -/
theorem Built.hash?_of_device {snapshot : Snapshot} (built : snapshot.Built) {number : Nat}
    {device : Device} (found : snapshot.device? number = some device) :
    snapshot.hash? number = some device.hash := by
  -- A node was given its device's checksum when it was numbered.
  obtain ⟨edition, preferences, grown, rfl⟩ := built
  obtain ⟨node, nodeFound, present⟩ := device?_eq_some_iff.mp found
  obtain ⟨other, isOther, hash⟩ := build_hash grown nodeFound
  rw [edition_build, isOther] at present
  cases present
  rw [hash?, nodeFound, Option.map_some, hash]

/-- A snapshot of any grown inventory, under any preferences, mirrors it. -/
theorem build_mirrors (edition : Edition) (grown : edition.inventory.Grown)
    (preferences : Preferences) :
    (build edition preferences).Mirrors edition preferences where
  edition_eq := edition_build edition preferences
  ordered := by
    rw [build_eq]
    exact ofNodes_ordered _ _ _
  hash _ _ found := build_hash grown found
  kept position := build_kept grown.linked position
  distinct _ _ _ _ leftFound rightFound same :=
    build_distinct grown.linked leftFound rightFound same
  -- A node is kept only with all above it, so that what lies above, and the root, is included.
  pruned number node found _ below other := by
    have kept := (build_kept grown.linked node.position).mpr ⟨number, node, found, rfl⟩
    exact kept.includes_above grown below other
  rooted number node found := by
    have kept := (build_kept grown.linked node.position).mpr ⟨number, node, found, rfl⟩
    exact kept.below_root
  listed := build_listed edition preferences
  parent _ _ found := build_parent grown found
  acyclic number cycle := by
    -- A node above itself would stand for a device that was found before itself.
    obtain ⟨up, linkedUp, _⟩ := Relation.TransGen.head'_iff.mp cycle
    obtain ⟨node, found, _⟩ := Option.bind_eq_some_iff.mp linkedUp
    obtain ⟨again, foundAgain, before⟩ := build_above grown found cycle
    rw [found] at foundAgain
    cases foundAgain
    exact absurd before (Nat.lt_irrefl _)

end AnyZone

/-- An inventory whose first root was given up for another, each with a device below it. -/
def rerooted : Inventory :=
  (((Inventory.empty.addRoot (.ofId "A" false)).addChild 0 (.ofId "B" false)).addRoot
    (.ofId "C" false)).addChild 2 (.ofId "D" false)

/-- It grew by devices that were found one after the other. -/
theorem rerooted_grown : rerooted.Grown :=
  .addChild (.addRoot (.addChild (.addRoot .empty _) (by decide) _) _) (by decide) _

/-- After a change of root the snapshot mirrors what stands below the new one. -/
theorem build_mirrors_rerooted :
    rerooted.Grown ∧ (build ⟨1, rerooted⟩ .standard).Mirrors ⟨1, rerooted⟩ .standard :=
  -- The inventory grew, and no more is asked of it.
  ⟨rerooted_grown, build_mirrors ⟨1, rerooted⟩ rerooted_grown .standard⟩

/-- A device with two devices below it, one of which has a third one below. -/
def hub : Inventory :=
  (((Inventory.empty.addRoot (.ofId "PC" false)).addChild 0 (.ofId "HUB" false)).addChild 1
    (.ofId "PEN" false)).addChild 0 (.ofId "PAD" false)

/-- They were found one after the other. -/
theorem hub_grown : hub.Grown :=
  .addChild (.addChild (.addChild (.addRoot .empty _) (by decide) _) (by decide) _) (by decide) _

/-- What is left when the device between two others is gone. -/
def hubless : Inventory :=
  (Inventory.empty.addRoot (.ofId "PC" false)).addChild 0 (.ofId "PAD" false)

/-- The two that are left were found one after the other. -/
theorem hubless_grown : hubless.Grown := .addChild (.addRoot .empty _) (by decide) _

end DeviceBrowser.Snapshot

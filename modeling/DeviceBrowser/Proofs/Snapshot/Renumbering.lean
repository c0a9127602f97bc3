import Mathlib.Data.List.Nodup
import DeviceBrowser.Proofs.Order
import DeviceBrowser.Snapshot

/-! Putting nodes in the order of their checksums gives each a new number and renumbers every link
alike. -/

namespace DeviceBrowser.Snapshot

/-- A snapshot is one of the edition that it is built from. -/
@[simp] theorem edition_build [Zone] (edition : Edition) (preferences : Preferences) :
    (build edition preferences).edition = edition := by
  -- With or without a root, the edition is handed on.
  rw [build]
  split <;> rfl

/-- The new number of a node. -/
def renumber (nodes : Array Node) (old : Nat) : Nat :=
  ((hashOrder nodes).zipIdx.foldl (fun ranks (old, rank) => ranks.set old rank)
    (List.replicate nodes.size 0))[old]?.getD 0

/-- A snapshot holds the nodes in the order of their checksums, renumbered like the roots. -/
theorem ofNodes_eq (edition : Edition) (nodes : Array Node) (roots : List Nat) :
    ofNodes edition nodes roots =
      { edition := edition
        nodes := (((hashOrder nodes).filterMap fun old => nodes[old]?).map
          (relink (renumber nodes))).toArray
        roots := roots.map (renumber nodes) } :=
  rfl

/-- Every node has one place in the order of the checksums. -/
theorem hashOrder_perm (nodes : Array Node) :
    (hashOrder nodes).Perm (List.range nodes.size) :=
  orderBy_perm _ _

/-- Every number of a node stands in the order. -/
@[simp] theorem mem_hashOrder {nodes : Array Node} {old : Nat} :
    old ∈ hashOrder nodes ↔ old < nodes.size := by
  -- The order rearranges all numbers of nodes.
  rw [(hashOrder_perm nodes).mem_iff, List.mem_range]

/-- The order has a place for each node. -/
@[simp] theorem length_hashOrder (nodes : Array Node) : (hashOrder nodes).length = nodes.size := by
  -- Rearranging keeps their number.
  rw [(hashOrder_perm nodes).length_eq, List.length_range]

/-- The order repeats no number. -/
theorem hashOrder_nodup (nodes : Array Node) : (hashOrder nodes).Nodup :=
  -- All numbers of nodes are distinct, in whatever order.
  (hashOrder_perm nodes).nodup_iff.mpr List.nodup_range

/-- Writing the places of an order into ranks leaves each number's place there, and the ranks of
other numbers. -/
theorem getElem?_setRanks {order : List Nat} (distinct : order.Nodup) (start : Nat)
    (ranks : List Nat) (within : ∀ old ∈ order, old < ranks.length) (old : Nat) :
    ((order.zipIdx start).foldl (fun ranks (old, rank) => ranks.set old rank) ranks)[old]? =
      if old ∈ order then some (start + order.idxOf old) else ranks[old]? := by
  -- The induction writes the first place, and later writes leave it, as no number stands twice.
  induction order generalizing start ranks with
  | nil => simp
  | cons first rest ih =>
    obtain ⟨fresh, restDistinct⟩ := List.nodup_cons.mp distinct
    have further := ih restDistinct (start + 1) (ranks.set first start)
      (fun old member => by simpa using within old (by simp [member]))
    rw [List.zipIdx_cons, List.foldl_cons, further]
    have inside := within first (by simp)
    by_cases same : old = first
    · subst same
      simp [fresh, inside]
    · by_cases member : old ∈ rest
      · have behind : (first :: rest).idxOf old = rest.idxOf old + 1 := by
          simp [Ne.symm same]
        simp [member, behind]
        omega
      · simp [member, same, Ne.symm same]

/-- The new number of a node is its place in the order. -/
theorem renumber_eq {nodes : Array Node} {old : Nat} (within : old < nodes.size) :
    renumber nodes old = (hashOrder nodes).idxOf old := by
  -- Ranks are written for each place in turn, and a number that stands there once keeps its rank.
  rw [renumber, getElem?_setRanks (hashOrder_nodup nodes) 0 _ (by simp), if_pos (by simpa)]
  simp

/-- New numbers are numbers of nodes. -/
theorem renumber_lt {nodes : Array Node} {old : Nat} (within : old < nodes.size) :
    renumber nodes old < nodes.size := by
  -- Each node has a place in the order, and there are as many places as nodes.
  rw [renumber_eq within, ← length_hashOrder nodes]
  exact List.idxOf_lt_length_of_mem (by simpa)

/-- At the new number of a node stands its old one. -/
theorem hashOrder_renumber {nodes : Array Node} {old : Nat} (within : old < nodes.size) :
    (hashOrder nodes)[renumber nodes old]? = some old := by
  -- The rank is the place where the number was found.
  have place := List.idxOf_lt_length_of_mem (mem_hashOrder.mpr within)
  rw [renumber_eq within, List.getElem?_eq_getElem place, List.getElem_idxOf]

/-- Different nodes get different numbers. -/
theorem renumber_injective {nodes : Array Node} {left right : Nat} (leftIn : left < nodes.size)
    (rightIn : right < nodes.size) (same : renumber nodes left = renumber nodes right) :
    left = right := by
  -- The place of a node tells its old number.
  have place := hashOrder_renumber leftIn
  rw [same, hashOrder_renumber rightIn] at place
  exact (Option.some.inj place).symm

/-- Every number is the new number of a node. -/
theorem exists_renumber {nodes : Array Node} {number : Nat} (within : number < nodes.size) :
    ∃ old < nodes.size, renumber nodes old = number := by
  -- Each place in the order holds the old number of some node.
  have place : number < (hashOrder nodes).length := by simpa
  have member := mem_hashOrder.mp (List.getElem_mem place)
  refine ⟨(hashOrder nodes)[number], member, ?_⟩
  rw [renumber_eq member, (hashOrder_nodup nodes).idxOf_getElem]

/-- Old links lead to the same new number only if they are the same. -/
theorem map_renumber_injective {nodes : Array Node} {left right : Option Nat}
    (leftIn : ∀ old, left = some old → old < nodes.size)
    (rightIn : ∀ old, right = some old → old < nodes.size)
    (same : left.map (renumber nodes) = right.map (renumber nodes)) : left = right := by
  -- Either both links are absent, or both are there and renumbering tells them apart.
  cases left with
  | none =>
    cases right with
    | none => rfl
    | some right => simp at same
  | some left =>
    cases right with
    | none => simp at same
    | some right =>
      have equal := renumber_injective (leftIn left rfl) (rightIn right rfl) (by simpa using same)
      rw [equal]

/-- A parent is none or the new number of a node, or it is beyond the nodes. -/
theorem renumber_cases (nodes : Array Node) (parent : Option Nat) :
    (∃ old : Option Nat, (∀ number, old = some number → number < nodes.size) ∧
      old.map (renumber nodes) = parent) ∨
      ∃ number, parent = some number ∧ nodes.size ≤ number := by
  cases parent with
  | none => exact .inl ⟨none, by simp, rfl⟩
  | some number =>
    -- Every number of a node is the new number of one.
    rcases Nat.lt_or_ge number nodes.size with within | beyond
    · obtain ⟨old, oldIn, rfl⟩ := exists_renumber within
      exact .inl ⟨some old, by simpa using oldIn, rfl⟩
    · exact .inr ⟨number, rfl, beyond⟩

section Links

variable (edition : Edition) (nodes : Array Node) (roots : List Nat)

/-- The nodes of a snapshot are the given ones, each at its new number and with its links
renumbered. -/
theorem nodes_ofNodes : (ofNodes edition nodes roots).nodes.toList =
    (hashOrder nodes).map fun old => relink (renumber nodes) (nodes[old]?.getD default) := by
  -- Every number in the order is that of a node, so that none is dropped.
  have present : (hashOrder nodes).filterMap (fun old => nodes[old]?) =
      (hashOrder nodes).map fun old => nodes[old]?.getD default := by
    rw [List.filterMap_eq_map_iff_forall_eq_some]
    intro old member
    simp [mem_hashOrder.mp member]
  rw [ofNodes_eq, present, List.map_map]
  rfl

/-- A snapshot has the given nodes and no others. -/
@[simp] theorem size_ofNodes : (ofNodes edition nodes roots).size = nodes.size := by
  -- Sorting and relinking keep the number of nodes.
  rw [size, ← Array.length_toList, nodes_ofNodes]
  simp

/-- The node at a new number is that of the old one with its links renumbered. -/
theorem node?_renumber {old : Nat} (within : old < nodes.size) :
    (ofNodes edition nodes roots).node? (renumber nodes old) =
      nodes[old]?.map (relink (renumber nodes)) := by
  -- The place of a node in the order is its new number.
  rw [node?, ← Array.getElem?_toList, nodes_ofNodes, List.getElem?_map, hashOrder_renumber within]
  simp [within]

/-- A snapshot's nodes are just the given ones, renumbered. -/
theorem node?_ofNodes {number : Nat} {node : Node} :
    (ofNodes edition nodes roots).node? number = some node ↔
      ∃ old given, nodes[old]? = some given ∧ renumber nodes old = number ∧
        relink (renumber nodes) given = node := by
  -- Every place has a node, whose old number is the one that stands there.
  constructor
  · intro found
    have within : number < nodes.size := by
      rw [← size_ofNodes edition nodes roots]
      exact (Array.getElem?_eq_some_iff.mp found).1
    obtain ⟨old, oldIn, rfl⟩ := exists_renumber within
    rw [node?_renumber _ _ _ oldIn, Option.map_eq_some_iff] at found
    obtain ⟨given, present, relinked⟩ := found
    exact ⟨old, given, present, rfl, relinked⟩
  · rintro ⟨old, given, present, rfl, rfl⟩
    rw [node?_renumber _ _ _ (Array.getElem?_eq_some_iff.mp present).1, present, Option.map_some]

/-- Below a new number stand the nodes that stood below the old one, renumbered. -/
theorem children_ofNodes {parent : Option Nat}
    (within : ∀ old, parent = some old → old < nodes.size) :
    (ofNodes edition nodes roots).children (parent.map (renumber nodes)) =
      ((Snapshot.mk edition nodes roots).children parent).map (renumber nodes) := by
  -- Roots are renumbered as they are, and other lists with the nodes that hold them.
  cases parent with
  | none => rfl
  | some old =>
    have present := within old rfl
    rw [Option.map_some, children, node?_renumber _ _ _ present]
    simp [children, node?, present, relink]

/-- The order of the checksums agrees with itself on the numbers of nodes. -/
theorem hashLess_ranks : Ranks (hashLess nodes) (List.range nodes.size) where
  -- On numbers of nodes the order is that of their checksums.
  asymm left leftIn right rightIn := by
    rw [List.mem_range] at leftIn rightIn
    simpa [hashLess, leftIn, rightIn] using UInt32.le_of_lt
  trans left leftIn middle middleIn right rightIn := by
    rw [List.mem_range] at leftIn middleIn rightIn
    simp only [hashLess, leftIn, middleIn, rightIn, getElem?_pos, decide_eq_false_iff_not,
      UInt32.not_lt]
    exact fun first second => UInt32.le_trans second first

/-- The checksums of a snapshot's nodes do not decrease. -/
theorem ofNodes_ordered :
    (ofNodes edition nodes roots).nodes.toList.Pairwise fun earlier later =>
      earlier.hash ≤ later.hash := by
  -- A node that comes before another is one that the other is not less than.
  rw [nodes_ofNodes, List.pairwise_map]
  apply (orderBy_pairwise (hashLess_ranks nodes)).imp_of_mem
  intro earlier later earlierIn laterIn notLess
  have earlierPresent := mem_hashOrder.mp earlierIn
  have laterPresent := mem_hashOrder.mp laterIn
  simpa [hashLess, relink, earlierPresent, laterPresent] using notLess

end Links

/-- The lists of a snapshot agree with the parents of its nodes: below a node stand, once each, just
those whose parent it is, and the roots are, once each, just those without a parent. -/
structure Listed (snapshot : Snapshot) : Prop where
  nodup : ∀ parent, (snapshot.children parent).Nodup
  mem_iff : ∀ parent child, child ∈ snapshot.children parent ↔
    ∃ node, snapshot.node? child = some node ∧ node.parent = parent

/-- Only a node has nodes below it. -/
theorem children_eq_nil {snapshot : Snapshot} {number : Nat} (beyond : snapshot.size ≤ number) :
    snapshot.children (some number) = [] := by
  -- There is no node at such a number, and so no list.
  have absent : snapshot.node? number = none := Array.getElem?_eq_none beyond
  simp [children, absent]

/-- Only nodes are listed. -/
theorem Listed.lt_size {snapshot : Snapshot} (listed : snapshot.Listed) {parent : Option Nat}
    {child : Nat}
    (member : child ∈ snapshot.children parent) : child < snapshot.size := by
  -- A list holds nodes whose parent it belongs to.
  obtain ⟨node, found, _⟩ := (listed.mem_iff parent child).mp member
  exact (Array.getElem?_eq_some_iff.mp found).1

/-- Where the lists agree with the parents, a parent is a node. -/
theorem Listed.parent_lt {snapshot : Snapshot} (listed : snapshot.Listed) {number up : Nat}
    {node : Node} (found : snapshot.node? number = some node) (linked : node.parent = some up) :
    up < snapshot.size := by
  -- Beyond the nodes there are no lists to be in.
  rcases Nat.lt_or_ge up snapshot.size with within | beyond
  · exact within
  · have member := (listed.mem_iff (some up) number).mpr ⟨node, found, linked⟩
    simp [children_eq_nil beyond] at member

/-- Renumbering keeps the lists in agreement with the parents. -/
theorem Listed.ofNodes {edition : Edition} {nodes : Array Node} {roots : List Nat}
    (listed : (Snapshot.mk edition nodes roots).Listed) :
    (Snapshot.ofNodes edition nodes roots).Listed := by
  constructor
  · -- Different nodes stay different under their new numbers.
    intro parent
    rcases renumber_cases nodes parent with ⟨old, within, rfl⟩ | ⟨number, rfl, beyond⟩
    · rw [children_ofNodes _ _ _ within]
      apply List.Nodup.map_on _ (listed.nodup old)
      intro left leftIn right rightIn same
      exact renumber_injective (listed.lt_size leftIn) (listed.lt_size rightIn) same
    · rw [children_eq_nil (by simpa using beyond)]
      exact List.nodup_nil
  · -- A list and the parents in it are renumbered alike.
    intro parent child
    rcases renumber_cases nodes parent with ⟨old, within, rfl⟩ | ⟨number, rfl, beyond⟩
    · rw [children_ofNodes _ _ _ within, List.mem_map]
      constructor
      · rintro ⟨given, member, rfl⟩
        obtain ⟨node, found, linked⟩ := (listed.mem_iff old given).mp member
        exact ⟨relink (renumber nodes) node,
          (node?_ofNodes _ _ _).mpr ⟨given, node, found, rfl, rfl⟩, by simp [relink, linked]⟩
      · rintro ⟨_, found, linked⟩
        obtain ⟨given, node, foundGiven, rfl, rfl⟩ := (node?_ofNodes _ _ _).mp found
        have same : node.parent = old := map_renumber_injective
          (fun up isParent => listed.parent_lt foundGiven isParent) within linked
        exact ⟨given, (listed.mem_iff old given).mpr ⟨node, foundGiven, same⟩, rfl⟩
    · rw [children_eq_nil (by simpa using beyond)]
      simp only [List.not_mem_nil, false_iff, not_exists, not_and]
      intro _ found linked
      obtain ⟨given, node, foundGiven, rfl, rfl⟩ := (node?_ofNodes _ _ _).mp found
      obtain ⟨up, isParent, isNumber⟩ := Option.map_eq_some_iff.mp linked
      have upIn : renumber nodes up < nodes.size :=
        renumber_lt (listed.parent_lt foundGiven isParent)
      omega

end DeviceBrowser.Snapshot

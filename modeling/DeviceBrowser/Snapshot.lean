import DeviceBrowser.Inventory.Source
import DeviceBrowser.Order
import DeviceBrowser.Preferences

/-! Snapshots: the devices of an inventory that the preferences show, as a tree whose nodes stand in
the order of their identifying checksums. -/

namespace DeviceBrowser

open Text

variable [Zone]

/-- A shown device, by its position in the inventory, with the shown devices below it. -/
inductive Branch where
  | node (position : Nat) (branches : List Branch)

namespace Branch

/-- The position of the device at the top. -/
def position : Branch → Nat
  | node position _ => position

/-- The shown devices below the one at a position, in the inventory's order, through a number of
levels. A device that is not shown hides all that is below it. -/
def grow (inventory : Inventory) (shows : Nat → Bool) : Nat → Nat → Branch
  | 0, position => node position []
  | levels + 1, position =>
    node position (((inventory.children position).filter shows).map (grow inventory shows levels))

mutual

/-- The number of devices of a branch. -/
def size : Branch → Nat
  | node _ branches => 1 + sizeAll branches

/-- The number of devices of several branches. -/
def sizeAll : List Branch → Nat
  | [] => 0
  | branch :: rest => size branch + sizeAll rest

end

/-- The tops of branches with their numbers, when the branches are numbered from `first` on and
each device comes before those below it. -/
def tops (first : Nat) : List Branch → List (Nat × Nat)
  | [] => []
  | branch :: rest => (first, branch.position) :: tops (first + branch.size) rest

end Branch

/-- A node of a snapshot: a device of the inventory, its checksum, and links to other nodes. -/
structure Node where
  position : Nat
  hash : UInt32
  parent : Option Nat
  children : List Nat
deriving DecidableEq, Inhabited

/-- Nodes of branches in the order of their numbers. `hashOf` gives a device's checksum, and
`arrange` puts the numbered tops of sibling branches in the order that is shown. -/
structure Numbering where
  hashOf : Nat → UInt32
  arrange : List (Nat × Nat) → List Nat

namespace Numbering

mutual

/-- The nodes of a branch that is numbered from `first` on. -/
def nodes (numbering : Numbering) (parent : Option Nat) (first : Nat) : Branch → List Node
  | .node position branches =>
    { position := position
      hash := numbering.hashOf position
      parent := parent
      children := numbering.arrange (Branch.tops (first + 1) branches) } ::
      nodesAll numbering (some first) (first + 1) branches

/-- The nodes of sibling branches that are numbered from `first` on. -/
def nodesAll (numbering : Numbering) (parent : Option Nat) (first : Nat) :
    List Branch → List Node
  | [] => []
  | branch :: rest =>
    nodes numbering parent first branch ++ nodesAll numbering parent (first + branch.size) rest

end

end Numbering

/-- A tree of shown devices over an edition of the inventory. -/
structure Snapshot where
  edition : Edition
  nodes : Array Node
  roots : List Nat
deriving Inhabited

namespace Snapshot

/-- A snapshot of nothing. -/
def empty : Snapshot := ⟨.none, #[], []⟩

/-- The node with its links renumbered. -/
def relink (renumber : Nat → Nat) (node : Node) : Node :=
  { node with
    parent := node.parent.map renumber
    children := node.children.map renumber }

/-- Whether the checksum of a node is less than that of another. -/
def hashLess (nodes : Array Node) (left right : Nat) : Bool :=
  match nodes[left]?, nodes[right]? with
  | some left, some right => left.hash < right.hash
  | _, _ => false

/-- The old numbers of nodes in the order of their checksums. -/
def hashOrder (nodes : Array Node) : List Nat :=
  orderBy (hashLess nodes) (List.range nodes.size)

/-- A snapshot whose nodes are put in the order of their checksums. -/
def ofNodes (edition : Edition) (nodes : Array Node) (roots : List Nat) : Snapshot :=
  -- The rank of a node is its place in the order, and its new number.
  let order := hashOrder nodes
  let ranks := order.zipIdx.foldl (fun ranks (old, rank) => ranks.set old rank)
    (List.replicate nodes.size 0)
  let renumber := fun old => ranks[old]?.getD 0
  { edition := edition
    nodes := ((order.filterMap fun old => nodes[old]?).map (relink renumber)).toArray
    roots := roots.map renumber }

/-- The name of the device at a position of an inventory. -/
def nameAt (inventory : Inventory) (position : Nat) : String :=
  match inventory.entry? position with
  | some entry => entry.device.name
  | none => ""

/-- The checksum of the device at a position of an inventory. -/
def hashAt (inventory : Inventory) (position : Nat) : UInt32 :=
  match inventory.entry? position with
  | some entry => entry.device.hash
  | none => 0

/-- Whether the device at a position is shown. -/
def shows (inventory : Inventory) (preferences : Preferences) (position : Nat) : Bool :=
  match inventory.entry? position with
  | some entry => preferences.includes entry.device
  | none => false

/-- The order of siblings: as the inventory has them, or by name. -/
def arrangement (inventory : Inventory) (preferences : Preferences) (tops : List (Nat × Nat)) :
    List Nat :=
  let arranged :=
    if preferences.sortChildren then
      orderBy (fun left right =>
        compareIgnoringCase (nameAt inventory left.2) (nameAt inventory right.2) == .lt) tops
    else tops
  arranged.map (·.1)

/-- The branches that the snapshot starts at: the root's, which is always shown, or those of its
shown children. -/
def branches (inventory : Inventory) (preferences : Preferences) (root : Nat) : List Branch :=
  -- No branch has more levels than there are devices.
  let grow := Branch.grow inventory (shows inventory preferences) inventory.size
  if preferences.showRoot then [grow root]
  else ((inventory.children root).filter (shows inventory preferences)).map grow

/-- The snapshot of an edition under preferences. -/
def build (edition : Edition) (preferences : Preferences) : Snapshot :=
  let inventory := edition.inventory
  match inventory.root with
  | none => ⟨edition, #[], []⟩
  | some root =>
    let branches := branches inventory preferences root
    let numbering : Numbering :=
      { hashOf := hashAt inventory, arrange := arrangement inventory preferences }
    ofNodes edition (numbering.nodesAll none 0 branches).toArray
      (numbering.arrange (Branch.tops 0 branches))

/-- The snapshot of the current edition, unless the active one is the same and nothing forces it. -/
def buildIfStale (current : Edition) (active : Option Edition) (force : Bool)
    (preferences : Preferences) : Option Snapshot :=
  let stale :=
    match active with
    | none => true
    | some active => force || !active.isSame current
  if stale then some (build current preferences) else none

/-- The number of nodes. -/
def size (snapshot : Snapshot) : Nat := snapshot.nodes.size

/-- The node of a number. -/
def node? (snapshot : Snapshot) (number : Nat) : Option Node := snapshot.nodes[number]?

/-- The entry of the inventory behind a node. -/
def entry? (snapshot : Snapshot) (number : Nat) : Option Entry :=
  (snapshot.node? number).bind fun node => snapshot.edition.inventory.entry? node.position

/-- The device of a node. -/
def device? (snapshot : Snapshot) (number : Nat) : Option Device :=
  (snapshot.entry? number).map (·.device)

/-- The checksum of a node. -/
def hash? (snapshot : Snapshot) (number : Nat) : Option UInt32 :=
  (snapshot.node? number).map (·.hash)

/-- The text of a node in a column. -/
def cellText (snapshot : Snapshot) (number : Nat) (cls : PropertyClass) : String :=
  match snapshot.device? number with
  | some device => device.cellText cls
  | none => ""

/-- The nodes below a node, or the roots. -/
def children (snapshot : Snapshot) : Option Nat → List Nat
  | none => snapshot.roots
  | some number =>
    match snapshot.node? number with
    | some node => node.children
    | none => []

/-- Halves a range of nodes, from `base` on and of a given length, until one node is left: the last
whose checksum is not above the one sought, if the range holds such a node. -/
def narrow (nodes : Array Node) (hash : UInt32) (base length : Nat) : Nat :=
  if length ≤ 1 then base
  else
    -- The lower half goes, unless the first node of the upper one is above already.
    let half := length / 2
    let isAbove :=
      match nodes[base + half]? with
      | some node => decide (hash < node.hash)
      | none => true
    narrow nodes hash (if isAbove then base else base + half) (length - half)
termination_by length
decreasing_by omega

/-- A node with a checksum, if there is one. Which one it is of several, only the halving tells. -/
def lookup (snapshot : Snapshot) (hash : UInt32) : Option Nat :=
  -- Where no node has the checksum, halving ends at some other one.
  let found := narrow snapshot.nodes hash 0 snapshot.size
  if snapshot.hash? found = some hash then some found else none

/-- A line of the snapshot's counts. -/
def summary (snapshot : Snapshot) : String :=
  "Snapshot \x7b nodes: " ++ decimal snapshot.size ++ ", roots: " ++
    decimal snapshot.roots.length ++ ", raw_items: " ++
    decimal snapshot.edition.inventory.size ++ " \x7d"

end Snapshot

end DeviceBrowser

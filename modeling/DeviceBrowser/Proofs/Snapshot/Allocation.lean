import DeviceBrowser.Inventory.Dump
import DeviceBrowser.Proofs.Snapshot.Correspondence

/-! Where devices stand in an inventory does not matter. Inventories that hold the same tree below
their roots, in whatever order its devices were added, have snapshots that differ in nothing but the
positions that their nodes refer to. -/

namespace DeviceBrowser

open List (Forall₂)

/-- Two positions of two inventories hold the same tree: the devices there have the same contents,
and their children in order hold the same trees. -/
inductive Inventory.SameTree (left right : Inventory) : Nat → Nat → Prop
  | node {position other : Nat} {device : Device} (here : left.device? position = some device)
      (there : right.device? other = some device)
      (children : Forall₂ (SameTree left right) (left.children position) (right.children other)) :
      SameTree left right position other

/-- Inventories with the same tree at their roots correspond, under any preferences: what building
looks at is read off devices of the same contents. -/
theorem Inventory.correspond_of_sameTree [Zone] {left right : Inventory}
    (roots : Option.Rel (left.SameTree right) left.root right.root) (preferences : Preferences) :
    Inventory.Correspond (left.SameTree right) preferences left right where
  -- Trees that are the same hold equal devices at their tops, off which everything but the children
  -- is read.
  hash same := by
    cases same with
    | node here there _ => rw [Snapshot.hashAt_eq, Snapshot.hashAt_eq, here, there]
  name same := by
    cases same with
    | node here there _ => rw [Snapshot.lowerChars_nameAt, Snapshot.lowerChars_nameAt, here, there]
  shows same := by
    cases same with
    | node here there _ => rw [Snapshot.shows_eq, Snapshot.shows_eq, here, there]
  children same := by
    cases same with
    | node _ _ children => exact children
  root := roots

namespace Snapshot

/-- Two snapshots have the same nodes when at each number they have nodes with the same checksum,
the same device and the same links, and the same roots. Where the devices stand is left open. -/
structure SameNodes (left right : Snapshot) : Prop where
  size : left.size = right.size
  roots : left.roots = right.roots
  hash : ∀ number, left.hash? number = right.hash? number
  device : ∀ number, left.device? number = right.device? number
  parent : ∀ number, left.parent? number = right.parent? number
  children : ∀ parent, left.children parent = right.children parent

/-- The list of a node is read off it. -/
theorem children_eq_map (snapshot : Snapshot) (number : Nat) :
    snapshot.children (some number) = ((snapshot.node? number).map (·.children)).getD [] := by
  -- A number without a node has no list, which is read as an empty one.
  rw [children]
  cases snapshot.node? number <;> rfl

/-- Inventories that hold the same tree below their roots have snapshots with the same nodes, in
whatever order the devices were added. -/
theorem build_sameNodes [Zone] {left right : Edition} (leftGrown : left.inventory.Grown)
    (rightGrown : right.inventory.Grown)
    (same : Option.Rel (left.inventory.SameTree right.inventory)
      left.inventory.root right.inventory.root) (preferences : Preferences) :
    (build left preferences).SameNodes (build right preferences) := by
  -- At each number the nodes correspond, so that each reading finds the same.
  have correspond : Inventory.Correspond _ preferences left.inventory right.inventory :=
    Inventory.correspond_of_sameTree same preferences
  obtain ⟨nodes, roots⟩ := build_correspond correspond leftGrown.linked rightGrown.linked
  have nodeAt : ∀ number, Option.Rel
      (Node.Correspond (left.inventory.SameTree right.inventory))
      ((build left preferences).node? number) ((build right preferences).node? number) := by
    intro number
    rw [node?, node?, ← Array.getElem?_toList, ← Array.getElem?_toList]
    exact rel_getElem? nodes number
  refine ⟨by simpa [size] using nodes.length_eq, roots, ?_, ?_, ?_, ?_⟩
  · intro number
    exact map_eq_of_rel (nodeAt number) fun same => same.hash
  · -- The two nodes refer to different positions, where the same device stands.
    intro number
    simp only [device?_eq_bind, edition_build]
    apply bind_eq_of_rel (nodeAt number)
    intro node other same
    cases same.position with
    | node here there _ => rw [here, there]
  · intro number
    exact bind_eq_of_rel (nodeAt number) fun same => same.parent
  · intro parent
    cases parent with
    | none => exact roots
    | some number =>
      rw [children_eq_map, children_eq_map, map_eq_of_rel (nodeAt number) fun same => same.children]

/-- A dump of a device about which only its id is known. -/
def plainDump (id : String) (children : List Dump) : Dump := .node id false (fun _ => none) children

/-- Two devices whose ids differ in case only, each with one below it. -/
def twoPorts : Dump :=
  plainDump "PC" [plainDump "Port" [plainDump "Disk" []], plainDump "PORT" [plainDump "Fan" []]]

/-- The devices of the dump in the order in which it is filled in: those of one parent together, and
then what is below the last of them. -/
def siblingsTogether : Inventory :=
  ((((Inventory.empty.addRoot (.ofId "PC" false)).addChild 0 (.ofId "Port" false)).addChild 0
    (.ofId "PORT" false)).addChild 2 (.ofId "Fan" false)).addChild 1 (.ofId "Disk" false)

/-- The same devices, each followed by those below it, after a root that was given up. -/
def branchesTogether : Inventory :=
  (((((Inventory.empty.addRoot (.ofId "Fan" false)).addRoot (.ofId "PC" false)).addChild 1
    (.ofId "Port" false)).addChild 2 (.ofId "Disk" false)).addChild 1
    (.ofId "PORT" false)).addChild 4 (.ofId "Fan" false)

/-- Filled in sibling by sibling or branch by branch, a tree with two ports of one checksum and one
name but for its case has the same nodes, although these refer to other positions. -/
theorem build_sameNodes_ports :
    let preferences := Preferences.standard.set .showDisconnected true
    twoPorts.inventory = siblingsTogether ∧ siblingsTogether.Grown ∧ branchesTogether.Grown ∧
    Option.Rel (siblingsTogether.SameTree branchesTogether) siblingsTogether.root
      branchesTogether.root ∧
    (build ⟨1, siblingsTogether⟩ preferences).nodes.map (·.position) = #[1, 2, 3, 0, 4] ∧
    (build ⟨1, branchesTogether⟩ preferences).nodes.map (·.position) = #[2, 4, 5, 1, 3] ∧
    (build ⟨1, siblingsTogether⟩ preferences).SameNodes
      (build ⟨1, branchesTogether⟩ preferences) := by
  -- The work list is unrolled round by round, which adds siblings together.
  have filled : twoPorts.inventory = siblingsTogether := by
    simp only [twoPorts, plainDump, Dump.inventory, Dump.fill, Dump.addChildren, Dump.children,
      Dump.placed, List.foldl_cons, List.foldl_nil, List.reverse_cons, List.reverse_nil,
      List.nil_append, List.cons_append]
    rfl
  have siblings : siblingsTogether.Grown :=
    .addChild (.addChild (.addChild (.addChild (.addRoot .empty _) (by decide) _) (by decide) _)
      (by decide) _) (by decide) _
  have branches : branchesTogether.Grown :=
    .addChild (.addChild (.addChild (.addChild (.addRoot (.addRoot .empty _) _) (by decide) _)
      (by decide) _) (by decide) _) (by decide) _
  -- Position by position, the trees are matched from the roots down.
  have same : Option.Rel (siblingsTogether.SameTree branchesTogether) (some 0) (some 1) :=
    .some (.node rfl rfl
      (.cons (.node rfl rfl (.cons (.node rfl rfl .nil) .nil))
        (.cons (.node rfl rfl (.cons (.node rfl rfl .nil) .nil)) .nil)))
  refine ⟨filled, siblings, branches, same, by decide +kernel, by decide +kernel, ?_⟩
  exact build_sameNodes siblings branches same _

end Snapshot

end DeviceBrowser

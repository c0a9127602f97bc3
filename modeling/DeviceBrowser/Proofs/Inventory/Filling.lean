import Mathlib.Data.List.Forall2
import Mathlib.Data.List.Nodup
import Mathlib.Logic.Function.Iterate
import Mathlib.Logic.Relation
import DeviceBrowser.Proofs.Inventory.Dump
import DeviceBrowser.Proofs.Inventory.Tagged

/-! The inventory of a dump is filled from a work list, and reading it from its root down the
children gives the dump back. -/

namespace DeviceBrowser

open List (Forall₂)

/-! ## Devices of a dump -/

/-- What a device keeps of the top of a dump: its id, whether it is an interface, and of each class
the value that is of the class's kind. A class that was given no such value has none, but for the
instance id, which the dump tells apart from its values. -/
structure Dump.Describes (dump : Dump) (device : Device) : Prop where
  id : device.id = dump.id
  isInterface : device.isInterface = dump.isInterface
  given : ∀ cls value, dump.values cls = some value → value.kind = cls.kind →
    device.property cls = ⟨cls.kind, some value⟩
  missing : ∀ cls ≠ PropertyClass.instanceId,
    (∀ value, dump.values cls = some value → value.kind ≠ cls.kind) →
    device.property cls = .absent cls.kind
  known : (∀ value, dump.values .instanceId = some value → value.kind ≠ .text) →
    device.property .instanceId = .holding (.text dump.id)

/-- Where a dump gives no value of the class's kind, its device has what the id tells. -/
theorem Dump.values_device_of_missing {dump : Dump} {cls : PropertyClass}
    (missing : ∀ value, dump.values cls = some value → value.kind ≠ cls.kind) :
    dump.device.values cls = (Device.ofId dump.id dump.isInterface).values cls := by
  -- The device starts from what the id tells and takes a value only if the kind fits.
  simp only [device]
  split
  · rename_i value found
    exact if_neg (missing value found)
  · rfl

/-- A dump describes its device. -/
theorem Dump.describes_device (dump : Dump) : dump.Describes dump.device where
  -- A value that fits is taken over, and all else is what the id alone would tell.
  id := rfl
  isInterface := rfl
  given cls value found kind := by
    simp only [Device.property, device, found, if_pos kind]
  missing cls other missing := by
    rw [Device.property, values_device_of_missing missing, Device.ofId]
    exact congrArg (Property.mk cls.kind) (if_neg other)
  known missing := by
    rw [Device.property, values_device_of_missing missing]
    rfl

namespace Inventory

/-- A dump is held at a position: its device stands there, and its children are held, one for one
and in order, at the children of the position. -/
inductive Holds (inventory : Inventory) : Nat → Dump → Prop where
  | node {position : Nat} {dump : Dump} {device : Device}
      (found : inventory.device? position = some device) (describes : dump.Describes device)
      (below : Forall₂ inventory.Holds (inventory.children position) dump.children) :
      Holds inventory position dump

/-- One position is reached from another from child to child. -/
def Reaches (inventory : Inventory) : Nat → Nat → Prop :=
  Relation.ReflTransGen fun parent child => child ∈ inventory.children parent

/-- An inventory renders a dump: it has as many devices as the dump, the dump is held at its root,
and all of it is reached from there. -/
structure Renders (inventory : Inventory) (dump : Dump) : Prop where
  size : inventory.size = dump.count
  root : inventory.root = some 0
  held : inventory.Holds 0 dump
  reached : ∀ position < inventory.size, inventory.Reaches 0 position

end Inventory

/-! ## One step -/

namespace Dump

variable {inventory : Inventory} {parent : Nat} {dump : Dump} {rest : List (Nat × Dump)}

/-- Dumps are matched with the positions where they are placed. -/
theorem forall₂_placed {matched : Nat → Dump → Prop} {first : Nat} {dumps : List Dump}
    (each : ∀ item ∈ placed first dumps, matched item.1 item.2) :
    Forall₂ matched ((placed first dumps).map (·.1)) dumps := by
  -- The positions were made along the dumps, so both lists are taken apart together.
  induction dumps generalizing first with
  | nil => exact .nil
  | cons dump rest ih =>
    obtain ⟨head, tail⟩ := List.forall_mem_cons.mp each
    exact .cons head (ih tail)

/-- Adding children leaves the devices that are there. -/
theorem device?_addChildren (children : List Dump) {position : Nat}
    (present : position < inventory.size) :
    (addChildren parent inventory children).device? position = inventory.device? position := by
  -- Each child goes to the end, so a position that was there before is never the new one.
  induction children generalizing inventory with
  | nil => rfl
  | cons child rest ih =>
    have stays : position < (inventory.addChild parent child.device).size := by
      rw [Inventory.size_addChild]
      omega
    have other : position ≠ inventory.size := by omega
    exact (ih stays).trans (by rw [Inventory.device?_addChild, if_neg other])

/-- Children that are added stand at the places where they are put on the work list. -/
theorem device?_of_mem_placed (children : List Dump) {item : Nat × Dump}
    (member : item ∈ placed inventory.size children) :
    (addChildren parent inventory children).device? item.1 = some item.2.device := by
  -- The first child is added where it is placed, and the others behind it leave it there.
  induction children generalizing inventory with
  | nil => cases member
  | cons child rest ih =>
    have larger : (inventory.addChild parent child.device).size = inventory.size + 1 :=
      inventory.size_addChild parent child.device
    rcases List.mem_cons.mp member with rfl | later
    · have stays : inventory.size < (inventory.addChild parent child.device).size := by omega
      exact (device?_addChildren rest stays).trans (by rw [Inventory.device?_addChild, if_pos rfl])
    · exact ih (larger ▸ later)

/-- Children that are added come last below their parent, in order, and all other devices keep
their children. -/
theorem children_addChildren (grown : inventory.Grown) (present : parent < inventory.size)
    (children : List Dump) (position : Nat) :
    (addChildren parent inventory children).children position = inventory.children position ++
      if position = parent then List.range' inventory.size children.length else [] := by
  -- The children come one by one, each behind those added before, and the range grows with them.
  induction children generalizing inventory with
  | nil => simp [addChildren]
  | cons child rest ih =>
    have larger : (inventory.addChild parent child.device).size = inventory.size + 1 :=
      inventory.size_addChild parent child.device
    have added := ih (grown.addChild present child.device) (by omega)
    rw [larger, grown.linked.children_addChild present, List.append_assoc] at added
    refine added.trans ?_
    split
    · rw [List.length_cons, List.range'_succ]
      rfl
    · rfl

/-! ## Work lists -/

/-- A work list in the middle of the filling: the inventory grew, and at each place on the list,
named once, stands the device of its dump, which has no children yet. -/
structure Waiting (inventory : Inventory) (work : List (Nat × Dump)) : Prop where
  grown : inventory.Grown
  distinct : (work.map (·.1)).Nodup
  device : ∀ item ∈ work, inventory.device? item.1 = some item.2.device
  childless : ∀ item ∈ work, inventory.children item.1 = []

section Waiting

variable {work : List (Nat × Dump)}

/-- What stands on a work list was added. -/
theorem Waiting.present (waiting : Waiting inventory work) {item : Nat × Dump}
    (member : item ∈ work) : item.1 < inventory.size := by
  -- What waits has its device in the inventory already, and so an entry.
  obtain ⟨entry, found, _⟩ := Option.map_eq_some_iff.mp (waiting.device item member)
  exact (Array.getElem?_eq_some_iff.mp found).1

/-- The dump served next was added. -/
theorem Waiting.parent_present (waiting : Waiting inventory ((parent, dump) :: rest)) :
    parent < inventory.size :=
  -- The dump served next is on the list itself.
  waiting.present List.mem_cons_self

/-- Serving a dump adds as many devices as it has children. -/
theorem Waiting.size_served (waiting : Waiting inventory ((parent, dump) :: rest)) :
    (addChildren parent inventory dump.children).size =
      inventory.size + dump.children.length :=
  -- Each child is one entry, and nothing else is added.
  (grown_addChildren waiting.grown waiting.parent_present dump.children).2

/-- A dump that is served gives its place on the work list to its children, the last one first. -/
theorem mem_served {item : Nat × Dump} :
    item ∈ (placed inventory.size dump.children).reverse ++ rest ↔
      item ∈ placed inventory.size dump.children ∨ item ∈ rest := by
  -- Turning the children round does not matter for what is on the list.
  rw [List.mem_append, List.mem_reverse]

/-- A dump that was served is not on the work list any more. -/
theorem Waiting.ne_parent (waiting : Waiting inventory ((parent, dump) :: rest))
    {item : Nat × Dump}
    (member : item ∈ (placed inventory.size dump.children).reverse ++ rest) :
    item.1 ≠ parent := by
  -- Its children are placed behind it, and the places on the list differ.
  have served := waiting.parent_present
  rcases mem_served.mp member with below | earlier
  · have behind := (bounds_of_mem_placed below).1
    omega
  · rintro rfl
    exact (List.nodup_cons.mp waiting.distinct).1 (List.mem_map_of_mem (f := (·.1)) earlier)

/-- Serving the first dump of a work list puts its children on the list. -/
theorem Waiting.serve (waiting : Waiting inventory ((parent, dump) :: rest)) :
    Waiting (addChildren parent inventory dump.children)
      ((placed inventory.size dump.children).reverse ++ rest) := by
  have served := waiting.parent_present
  have present : ∀ item ∈ rest, item.1 < inventory.size :=
    fun item member => waiting.present (List.mem_cons_of_mem _ member)
  constructor
  · exact (grown_addChildren waiting.grown served dump.children).1
  · -- The new places follow each other behind all that are on the list.
    rw [List.map_append, List.map_reverse, map_position_placed, List.nodup_append]
    refine ⟨List.nodup_reverse.mpr List.nodup_range', (List.nodup_cons.mp waiting.distinct).2, ?_⟩
    intro new placed old listed
    obtain ⟨item, member, rfl⟩ := List.mem_map.mp listed
    have before := present item member
    rw [List.mem_reverse, List.mem_range'_1] at placed
    omega
  · intro item member
    rcases mem_served.mp member with below | earlier
    · exact device?_of_mem_placed dump.children below
    · -- Places that waited before are older than all that is added, and none of it touches them.
      rw [device?_addChildren dump.children (present item earlier)]
      exact waiting.device item (List.mem_cons_of_mem _ earlier)
  · intro item member
    rw [children_addChildren waiting.grown served, if_neg (waiting.ne_parent member),
      List.append_nil]
    rcases mem_served.mp member with below | earlier
    · exact waiting.grown.linked.children_of_size_le (bounds_of_mem_placed below).1
    · exact waiting.childless item (List.mem_cons_of_mem _ earlier)

/-- Filling leaves the devices that are there. -/
theorem Waiting.device?_fill (waiting : Waiting inventory work) {position : Nat}
    (present : position < inventory.size) :
    (fill inventory work).device? position = inventory.device? position := by
  -- The induction follows the rounds, and no round writes to a device that is there.
  fun_induction fill inventory work with
  | case1 inventory => rfl
  | case2 inventory parent dump rest ih =>
    have size := waiting.size_served
    rw [ih waiting.serve (by omega), device?_addChildren dump.children present]

/-- Filling leaves the children of devices that do not wait. -/
theorem Waiting.children_fill (waiting : Waiting inventory work) {position : Nat}
    (present : position < inventory.size) (other : ∀ item ∈ work, item.1 ≠ position) :
    (fill inventory work).children position = inventory.children position := by
  -- Children are added below the first dump on the list only, and those put on the list are new.
  fun_induction fill inventory work with
  | case1 inventory => rfl
  | case2 inventory parent dump rest ih =>
    have size := waiting.size_served
    have notServed : position ≠ parent := (other (parent, dump) List.mem_cons_self).symm
    have still : ∀ item ∈ (placed inventory.size dump.children).reverse ++ rest,
        item.1 ≠ position := by
      intro item member
      rcases mem_served.mp member with below | earlier
      · have behind := (bounds_of_mem_placed below).1
        omega
      · exact other item (List.mem_cons_of_mem _ earlier)
    rw [ih waiting.serve (by omega) still,
      children_addChildren waiting.grown waiting.parent_present, if_neg notServed, List.append_nil]

/-- In the end the first dump on a work list has the children that were placed for it. -/
theorem Waiting.children_served (waiting : Waiting inventory ((parent, dump) :: rest)) :
    (fill (addChildren parent inventory dump.children)
      ((placed inventory.size dump.children).reverse ++ rest)).children parent =
      (placed inventory.size dump.children).map (·.1) := by
  -- The children come into being in this round, and later rounds serve other positions only.
  have served := waiting.parent_present
  have size := waiting.size_served
  have childless : inventory.children parent = [] :=
    waiting.childless (parent, dump) List.mem_cons_self
  rw [waiting.serve.children_fill (by omega) fun _ => waiting.ne_parent,
    children_addChildren waiting.grown served, if_pos rfl, childless, List.nil_append,
    map_position_placed]

/-- In the end every dump on a work list is held at its place. -/
theorem Waiting.held (waiting : Waiting inventory work) :
    ∀ item ∈ work, (fill inventory work).Holds item.1 item.2 := by
  -- When the first dump was served, its children are on the list, and so they are held.
  fun_induction fill inventory work with
  | case1 inventory =>
    intro item member
    cases member
  | case2 inventory parent dump rest ih =>
    have held := ih waiting.serve
    intro item member
    rcases List.mem_cons.mp member with rfl | earlier
    · have served := waiting.parent_present
      have size := waiting.size_served
      have found : inventory.device? parent = some dump.device :=
        waiting.device (parent, dump) List.mem_cons_self
      refine .node ?_ dump.describes_device ?_
      · rw [waiting.serve.device?_fill (by omega), device?_addChildren dump.children served, found]
      · rw [waiting.children_served]
        exact forall₂_placed fun child below => held child (mem_served.mpr (.inl below))
    · exact held item (mem_served.mpr (.inr earlier))

/-- All that is added is reached from the places of a work list. -/
theorem Waiting.reached (waiting : Waiting inventory work) {position : Nat}
    (new : inventory.size ≤ position) (within : position < (fill inventory work).size) :
    ∃ item ∈ work, (fill inventory work).Reaches item.1 position := by
  -- What a round adds are children of the dump that it serves; the rest is reached through the
  -- work list that the round leaves.
  fun_induction fill inventory work with
  | case1 inventory => omega
  | case2 inventory parent dump rest ih =>
    have size := waiting.size_served
    -- Later rounds keep the children that this round gave to the parent.
    have child : ∀ {item : Nat × Dump}, item ∈ placed inventory.size dump.children →
        item.1 ∈ (fill (addChildren parent inventory dump.children)
          ((placed inventory.size dump.children).reverse ++ rest)).children parent := by
      intro item below
      rw [waiting.children_served]
      exact List.mem_map_of_mem below
    rcases Nat.lt_or_ge position (addChildren parent inventory dump.children).size with now | later
    · have placed : position ∈ (placed inventory.size dump.children).map (·.1) := by
        rw [map_position_placed, List.mem_range'_1]
        omega
      obtain ⟨item, below, rfl⟩ := List.mem_map.mp placed
      exact ⟨_, List.mem_cons_self, .single (child below)⟩
    · obtain ⟨item, member, reaches⟩ := ih waiting.serve later within
      rcases mem_served.mp member with below | earlier
      · exact ⟨_, List.mem_cons_self, reaches.head (child below)⟩
      · exact ⟨item, List.mem_cons_of_mem _ earlier, reaches⟩

end Waiting

/-! ## The inventory of a dump -/

/-- One round of the filling: the first dump on the work list gives way to its children. -/
def serve : Inventory × List (Nat × Dump) → Inventory × List (Nat × Dump)
  | (inventory, []) => (inventory, [])
  | (inventory, (parent, dump) :: rest) =>
    (addChildren parent inventory dump.children,
      (placed inventory.size dump.children).reverse ++ rest)

/-- The filling of a dump's inventory starts with its root, which waits for its children. -/
def start (dump : Dump) : Inventory × List (Nat × Dump) :=
  (Inventory.empty.addRoot dump.device, [(0, dump)])

/-- Every round takes one dump off what is left to do. -/
theorem workload_serve (state : Inventory × List (Nat × Dump)) :
    workload (serve state).2 = workload state.2 - 1 := by
  -- A round trades a dump for its children, which together count one less; with no work left, none
  -- is done.
  match state with
  | (_, []) => rfl
  | (inventory, (parent, dump) :: rest) =>
    have left := workload_served dump inventory.size parent rest
    show workload ((placed inventory.size dump.children).reverse ++ rest) =
      workload ((parent, dump) :: rest) - 1
    omega

/-- A round does not change what the filling comes to. -/
theorem fill_serve (state : Inventory × List (Nat × Dump)) :
    fill (serve state).1 (serve state).2 = fill state.1 state.2 := by
  -- Filling is the same round made until nothing is left.
  match state with
  | (_, []) => rfl
  | (inventory, (parent, dump) :: rest) =>
    rw [fill]
    rfl

/-- Nothing is left to do exactly when the work list is empty. -/
theorem workload_eq_zero_iff {work : List (Nat × Dump)} : workload work = 0 ↔ work = [] := by
  -- Every dump on the list counts at least itself.
  constructor
  · intro nothing
    match work with
    | [] => rfl
    | (_, .node _ _ _ children) :: rest =>
      simp only [workload, List.map_cons, countAll, count] at nothing
      omega
  · rintro rfl
    rfl

/-- So many rounds take as many dumps off what is left to do. -/
theorem workload_rounds (state : Inventory × List (Nat × Dump)) (rounds : Nat) :
    workload (serve^[rounds] state).2 = workload state.2 - rounds := by
  -- By induction on the rounds, of which the last one is made on what the others left.
  induction rounds with
  | zero => rfl
  | succ rounds ih =>
    rw [Function.iterate_succ_apply', workload_serve, ih]
    rfl

/-- No number of rounds changes what the filling comes to. -/
theorem fill_rounds (state : Inventory × List (Nat × Dump)) (rounds : Nat) :
    fill (serve^[rounds] state).1 (serve^[rounds] state).2 = fill state.1 state.2 := by
  -- By induction on the rounds, none of which makes a difference.
  induction rounds with
  | zero => rfl
  | succ rounds ih => rw [Function.iterate_succ_apply', fill_serve, ih]

/-- Filling an inventory leaves its root. -/
theorem root_fill (inventory : Inventory) (work : List (Nat × Dump)) :
    (fill inventory work).root = inventory.root := by
  -- Only children are added, and none of them becomes the root.
  have added : ∀ (parent : Nat) (children : List Dump) (inventory : Inventory),
      (addChildren parent inventory children).root = inventory.root := by
    intro parent children
    induction children with
    | nil => exact fun _ => rfl
    | cons child rest ih => exact fun inventory => ih _
  fun_induction fill inventory work with
  | case1 inventory => rfl
  | case2 inventory parent dump rest ih => exact ih.trans (added parent dump.children inventory)

/-- The root of a dump waits for its children at the start. -/
theorem waiting_start (dump : Dump) : Waiting dump.start.1 dump.start.2 := by
  -- At the start the root alone waits, in an inventory that holds nothing else.
  have grown : dump.start.1.Grown := .addRoot .empty dump.device
  constructor
  · exact grown
  · exact List.nodup_singleton 0
  · intro item isRoot
    rw [List.mem_singleton.mp isRoot]
    rfl
  · intro item isRoot
    rw [List.mem_singleton.mp isRoot]
    exact Inventory.linked_empty.children_addRoot dump.device 0

/-- Filling the inventory of a dump ends after as many rounds as the dump has devices and no sooner,
and the inventory renders the dump. -/
theorem inventory_renders (dump : Dump) :
    (∀ rounds, (serve^[rounds] dump.start).2 = [] ↔ dump.count ≤ rounds) ∧
    (serve^[dump.count] dump.start).1 = dump.inventory ∧ dump.inventory.Renders dump := by
  -- Rounds are counted by the workload, of which each takes one and the whole dump is the first.
  have workload : workload dump.start.2 = dump.count := Nat.add_zero dump.count
  have ends : ∀ rounds, (serve^[rounds] dump.start).2 = [] ↔ dump.count ≤ rounds := by
    intro rounds
    rw [← workload_eq_zero_iff, workload_rounds, workload]
    omega
  have waiting := dump.waiting_start
  refine ⟨ends, ?_, ?_⟩
  · have filled := fill_rounds dump.start dump.count
    rw [(ends dump.count).mpr (Nat.le_refl _), fill] at filled
    exact filled
  · constructor
    · exact (grown_inventory dump).2
    · exact root_fill _ _
    · exact waiting.held (0, dump) List.mem_cons_self
    · intro position within
      -- The root is reached at once, and every other device was placed during the filling.
      rcases Nat.eq_zero_or_pos position with rfl | new
      · exact .refl
      · have behind : dump.start.1.size ≤ position := new
        obtain ⟨item, isRoot, reaches⟩ := waiting.reached behind within
        rw [List.mem_singleton.mp isRoot] at reaches
        exact reaches

end Dump

end DeviceBrowser

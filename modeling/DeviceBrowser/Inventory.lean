import DeviceBrowser.Device

/-! Inventories: the devices an enumeration found, in the order found, linked to their parents and
siblings. -/

namespace DeviceBrowser

/-- A device of an inventory and its links, which are positions in the inventory. -/
structure Entry where
  device : Device
  parent : Option Nat
  firstChild : Option Nat
  lastChild : Option Nat
  nextSibling : Option Nat
  childCount : Nat

namespace Entry

/-- A device without any link. -/
def unlinked (device : Device) : Entry := ⟨device, none, none, none, none, 0⟩

/-- An entry without its links, which lead nowhere in another inventory. -/
def detached (entry : Entry) : Entry :=
  { entry with
    parent := none
    firstChild := none
    lastChild := none
    nextSibling := none
    childCount := 0 }

/-- An entry after `child` became its last child. -/
def adopt (entry : Entry) (child : Nat) : Entry :=
  { entry with
    firstChild := entry.firstChild.or (some child)
    lastChild := some child
    childCount := entry.childCount + 1 }

end Entry

/-- The devices found and the one at which the tree starts. -/
structure Inventory where
  entries : Array Entry
  root : Option Nat
deriving Inhabited

namespace Inventory

/-- An inventory without devices. -/
def empty : Inventory := ⟨#[], none⟩

/-- How many devices were found. -/
def size (inventory : Inventory) : Nat := inventory.entries.size

/-- Adds a device and starts the tree at it; devices added before stay. -/
def addRoot (inventory : Inventory) (device : Device) : Inventory where
  entries := inventory.entries.push (.unlinked device)
  root := some inventory.size

/-- Adds a device as the last child of the device at `parent`: its older sibling, if any, and its
parent are linked to it. -/
def addChild (inventory : Inventory) (parent : Nat) (device : Device) : Inventory :=
  -- The older sibling is found before anything is written.
  let child := inventory.size
  let older := inventory.entries[parent]?.bind (·.lastChild)
  let grown := inventory.entries.push { Entry.unlinked device with parent := some parent }
  let chained :=
    match older with
    | some sibling => grown.modify sibling fun entry => { entry with nextSibling := some child }
    | none => grown
  { inventory with entries := chained.modify parent (·.adopt child) }

/-- Adds an entry, wherever it was before: the links that it carries are left behind. -/
def enter (inventory : Inventory) (entry : Entry) : Inventory :=
  { inventory with entries := inventory.entries.push entry.detached }

/-- Adds an entry and starts the tree at it. -/
def enterRoot (inventory : Inventory) (entry : Entry) : Inventory :=
  { inventory.enter entry with root := some inventory.size }

/-- Adds an entry as the last child of the one at `parent`, and writes one link after the other. -/
def enterChild (inventory : Inventory) (parent : Nat) (entry : Entry) : Inventory :=
  let child := inventory.size
  let entered := (inventory.enter entry).entries.modify child
    fun entry => { entry with parent := some parent }
  let chained :=
    match entered[parent]?.bind (·.lastChild) with
    | some last => entered.modify last fun entry => { entry with nextSibling := some child }
    | none => entered.modify parent fun entry => { entry with firstChild := some child }
  { inventory with
    entries := chained.modify parent fun entry =>
      { entry with lastChild := some child, childCount := entry.childCount + 1 } }

/-- The entry at a position. -/
def entry? (inventory : Inventory) (position : Nat) : Option Entry :=
  inventory.entries[position]?

/-- The parent of the device at a position. -/
def parent? (inventory : Inventory) (position : Nat) : Option Nat :=
  (inventory.entry? position).bind (·.parent)

/-- A device and the younger siblings after it, by following at most `steps` links. -/
def siblingsFrom (inventory : Inventory) : Nat → Option Nat → List Nat
  | 0, _ => []
  | _, none => []
  | steps + 1, some position =>
    position :: siblingsFrom inventory steps
      ((inventory.entry? position).bind (·.nextSibling))

/-- The children of the device at a position, in the order they were added. -/
def children (inventory : Inventory) (position : Nat) : List Nat :=
  inventory.siblingsFrom inventory.size ((inventory.entry? position).bind (·.firstChild))

/-- Adding a root adds one device. -/
@[simp] theorem size_addRoot (inventory : Inventory) (device : Device) :
    (inventory.addRoot device).size = inventory.size + 1 := by
  -- One entry is pushed.
  simp [addRoot, size]

/-- Adding a child adds one device. -/
@[simp] theorem size_addChild (inventory : Inventory) (parent : Nat) (device : Device) :
    (inventory.addChild parent device).size = inventory.size + 1 := by
  -- One entry is pushed and the others are only relinked.
  simp only [addChild, size]
  split <;> simp

end Inventory

end DeviceBrowser

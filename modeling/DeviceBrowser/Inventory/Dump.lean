import DeviceBrowser.Inventory
import DeviceBrowser.Text.Json.Reader

/-! Device dumps: a tree of devices with their property values, its JSON document, and the inventory
that it describes. -/

namespace DeviceBrowser

open Text

/-- A device of a dump with the devices below it. A property may hold a value of any kind. -/
inductive Dump where
  | node (id : String) (isInterface : Bool) (values : PropertyClass → Option Value)
      (children : List Dump)

namespace Dump

/-- The instance id. -/
def id : Dump → String
  | node id _ _ _ => id

/-- Whether the device is an interface. -/
def isInterface : Dump → Bool
  | node _ isInterface _ _ => isInterface

/-- The value given for a property class. -/
def values : Dump → PropertyClass → Option Value
  | node _ _ values _ => values

/-- The devices directly below. -/
def children : Dump → List Dump
  | node _ _ _ children => children

mutual

/-- The number of devices in a dump. -/
def count : Dump → Nat
  | node _ _ _ children => 1 + countAll children

/-- The number of devices in several dumps. -/
def countAll : List Dump → Nat
  | [] => 0
  | dump :: rest => count dump + countAll rest

end

/-- The device that a dump describes at its top. A value of another kind than its class asks for is
left out. -/
def device (dump : Dump) : Device :=
  let known := Device.ofId dump.id dump.isInterface
  { known with
    values := fun cls =>
      match dump.values cls with
      | some value => if value.kind = cls.kind then some value else known.values cls
      | none => known.values cls }

/-- Dumps placed at consecutive positions from `first` on. -/
def placed (first : Nat) : List Dump → List (Nat × Dump)
  | [] => []
  | dump :: rest => (first, dump) :: placed (first + 1) rest

/-- Adds devices as children of the one at `parent`, in order. -/
def addChildren (parent : Nat) (inventory : Inventory) (children : List Dump) : Inventory :=
  children.foldl (fun grown child => grown.addChild parent child.device) inventory

/-- How many devices the dumps of a work list hold. -/
def workload (work : List (Nat × Dump)) : Nat := countAll (work.map (·.2))

theorem countAll_append (front back : List Dump) :
    countAll (front ++ back) = countAll front + countAll back := by
  -- Counting goes through the list from its front.
  induction front with
  | nil => simp [countAll]
  | cons dump rest ih => simp [countAll, ih]; omega

theorem countAll_reverse (dumps : List Dump) : countAll dumps.reverse = countAll dumps := by
  -- Reversal moves each count to the end of the sum.
  induction dumps with
  | nil => rfl
  | cons dump rest ih => simp [countAll_append, ih, countAll]; omega

theorem map_placed (first : Nat) (dumps : List Dump) : (placed first dumps).map (·.2) = dumps := by
  -- Placing pairs each dump with a number and keeps the order.
  induction dumps generalizing first with
  | nil => rfl
  | cons dump rest ih => simp [placed, ih]

/-- The children of a dump taken off the work list weigh less than it did. -/
theorem workload_children (dump : Dump) (first : Nat) (parent : Nat) (rest : List (Nat × Dump)) :
    workload ((placed first dump.children).reverse ++ rest) <
      workload ((parent, dump) :: rest) := by
  -- Placing and reversing keep the counts, and the dump itself counts one more.
  cases dump with
  | node id isInterface values children =>
    simp only [workload, List.map_append, List.map_reverse, map_placed, countAll_append,
      countAll_reverse, List.map_cons, countAll, count, Dump.children]
    omega

/-- Adds what is below the devices of a work list. The device added last is served first, so that
the children of a device are added together. -/
def fill (inventory : Inventory) : List (Nat × Dump) → Inventory
  | [] => inventory
  | (parent, dump) :: rest =>
    fill (addChildren parent inventory dump.children)
      ((placed inventory.size dump.children).reverse ++ rest)
termination_by work => workload work
decreasing_by exact workload_children dump inventory.size parent rest

/-- The inventory that a dump describes. -/
def inventory (dump : Dump) : Inventory :=
  fill (Inventory.empty.addRoot dump.device) [(0, dump)]

/-- How many values may enclose one another in a dump's document. -/
def nestingLimit : Nat := 127

/-- The strings of an array's items. -/
def texts? : Json → Option (List String)
  | .array items => items.mapM Json.text?
  | _ => none

/-- The bytes of an array's items. -/
def bytes? : Json → Option (List UInt8)
  | .array items => items.mapM Json.uint8?
  | _ => none

/-- Reads the value of a kind, given the levels of nesting still allowed for it. -/
def payload? (levels : Nat) (json : Json) : Kind → Option Value
  | .text => json.text?.map .text
  | .textList => if levels = 0 then none else (texts? json).map .textList
  | .uint32 => json.uint32?.map .uint32
  | .int32 => json.int32?.map .int32
  | .uint64 => json.uint64?.map .uint64
  | .int64 => json.int64?.map .int64
  | .guid => (json.text?.bind Guid.ofText?).map .guid
  | .flag => json.bool?.map .flag
  | .time => json.int64?.map fun ticks => .time ⟨ticks⟩
  | .bytes => if levels = 0 then none else (bytes? json).map .bytes
  | .status => json.int32?.map .status

/-- Reads a value: an object with one member named for the kind. -/
def value? : Nat → Json → Option Value
  | levels + 1, .object [(some name, json)] => do payload? levels json (← Kind.ofKey? name)
  | _, _ => none

/-- Reads property values; of two for one class the later counts. -/
def values? : Nat → Json → Option (PropertyClass → Option Value)
  | levels + 1, .object members =>
    members.foldlM (fun known member => do
      let cls ← PropertyClass.ofKey? (← member.1)
      let value ← value? levels member.2
      some fun other => if other = cls then some value else known other) fun _ => none
  | _, _ => none

/-- The parts of a dump's document that describe one device; all but the id may be missing. -/
structure Parts where
  id : Option Json
  isInterface : Option Json
  values : Option Json
  children : Option Json

/-- Files a member of an object under its name: no known name may come twice, and a member of any
other name is ignored. -/
def Parts.add (parts : Parts) (name : String) (json : Json) : Option Parts :=
  match name with
  | "instance_id" => if parts.id.isNone then some { parts with id := some json } else none
  | "interface" =>
    if parts.isInterface.isNone then some { parts with isInterface := some json } else none
  | "properties" => if parts.values.isNone then some { parts with values := some json } else none
  | "children" =>
    if parts.children.isNone then some { parts with children := some json } else none
  | _ => some parts

/-- The parts of a device: members of an object, or the items of an array in a fixed order. -/
def parts? : Json → Option Parts
  | .object members =>
    members.foldlM (fun parts member => do parts.add (← member.1) member.2) ⟨none, none, none, none⟩
  | .array [id] => some ⟨some id, none, none, none⟩
  | .array [id, isInterface] => some ⟨some id, some isInterface, none, none⟩
  | .array [id, isInterface, values] => some ⟨some id, some isInterface, some values, none⟩
  | .array [id, isInterface, values, children] =>
    some ⟨some id, some isInterface, some values, some children⟩
  | _ => none

/-- Reads a part that may be missing. -/
def orElse {α : Type} (missing : α) (read : Json → Option α) : Option Json → Option α
  | none => some missing
  | some json => read json

/-- Reads a device from its document. `levels` is the nesting allowed inside it, and `child?` reads
a child when the nesting allows children. -/
def node? (levels : Nat) (child? : Option (Json → Option Dump)) (json : Json) : Option Dump := do
  let parts ← parts? json
  let id ← parts.id >>= Json.text?
  let isInterface ← orElse false Json.bool? parts.isInterface
  let values ← orElse (fun _ => none) (values? levels) parts.values
  let children ← orElse [] (fun json =>
    match child?, json with
    | some read, .array items => items.mapM read
    | _, _ => none) parts.children
  some (node id isInterface values children)

/-- Reads a dump whose document may nest through the given number of levels. -/
def ofJson? : Nat → Json → Option Dump
  | 0, _ => none
  | 1, json => node? 0 none json
  | levels + 2, json => node? (levels + 1) (some (ofJson? levels)) json

/-- Reads the document of a dump. -/
def read? (document : String) : Option Dump :=
  Json.read? document >>= ofJson? nestingLimit

end Dump

end DeviceBrowser

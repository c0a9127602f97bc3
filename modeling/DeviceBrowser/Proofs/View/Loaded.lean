import Mathlib
import DeviceBrowser.Proofs.Inventory.Dump
import DeviceBrowser.Proofs.View.Sorting

/-! Devices that are loaded from dump files have values of the kinds of their classes. Any two of
them compare without a mismatch of kinds, and sorting them follows a total order. -/

namespace DeviceBrowser

open Text

/-! ## Comparisons without a mismatch -/

/-- Orders two values of one kind, and no two values of two kinds. -/
def Value.compare? : Value → Value → Option Ordering
  | text left, text right => some (compareIgnoringCase left right)
  | textList left, textList right =>
    some (compareIgnoringCase (join ", " left) (join ", " right))
  | uint32 left, uint32 right => some (Ord.compare left right)
  | int32 left, int32 right => some (Ord.compare left.toInt right.toInt)
  | uint64 left, uint64 right => some (Ord.compare left right)
  | int64 left, int64 right => some (Ord.compare left.toInt right.toInt)
  | status left, status right => some (Ord.compare left.toInt right.toInt)
  | guid left, guid right => some (left.compare right)
  | flag left, flag right => some (Ord.compare left right)
  | time left, time right => some (Ord.compare left.ticks.toInt right.ticks.toInt)
  | bytes left, bytes right => some (Ord.compare left right)
  | _, _ => none

/-- The order of two values ties where there is none. -/
theorem Value.compare_eq_getD (left right : Value) :
    left.compare right = (left.compare? right).getD .eq := by
  -- Values of two kinds tie, and those of one kind are ordered.
  cases left <;> cases right <;> rfl

/-- Two values are ordered exactly if they are of one kind. -/
theorem Value.compare?_isSome_iff {left right : Value} :
    (left.compare? right).isSome = true ↔ left.kind = right.kind := by
  -- All pairs of kinds are looked at.
  cases left <;> cases right <;> simp [compare?, kind]

/-- Orders two properties like `Property.compare`, but values of two kinds are not ordered. -/
def Property.compare? (left right : Property) : Option Ordering :=
  match left.value, right.value with
  | none, none => some .eq
  | some _, none => some .lt
  | none, some _ => some .gt
  | some left, some right => left.compare? right

/-- Properties whose values are of one kind are ordered. -/
theorem Property.compare?_eq_some {left right : Property} {kind : Kind}
    (leftKind : ∀ value, left.value = some value → value.kind = kind)
    (rightKind : ∀ value, right.value = some value → value.kind = kind) :
    left.compare? right = some (left.compare right) := by
  -- Only two values could be of two kinds.
  obtain ⟨_, leftValue⟩ := left
  obtain ⟨_, rightValue⟩ := right
  cases leftValue <;> cases rightValue <;> try rfl
  rename_i left right
  have oneKind : left.kind = right.kind := (leftKind left rfl).trans (rightKind right rfl).symm
  obtain ⟨order, ordered⟩ := Option.isSome_iff_exists.mp (Value.compare?_isSome_iff.mpr oneKind)
  show left.compare? right = some (left.compare right)
  rw [Value.compare_eq_getD, ordered, Option.getD_some]

/-! ## Loaded devices -/

/-- What is loaded from a dump file grew device by device, and is well tagged. -/
theorem DumpFile.sound_of_load {file : DumpFile} {inventory : Inventory}
    (loaded : file.load = .ok inventory) : inventory.Grown ∧ inventory.WellTagged := by
  -- Only a dump is loaded, and its inventory was filled from it.
  obtain ⟨dump, rfl⟩ := exists_dump_of_load loaded
  exact ⟨dump.grown_inventory.1, dump.wellTagged_inventory⟩

/-- A device is in an inventory if it is found at one of its positions. -/
def Device.In (device : Device) (inventory : Inventory) : Prop :=
  ∃ position, inventory.device? position = some device

/-- A device is loaded if it is in an inventory that was loaded from some dump file. -/
def Device.Loaded (device : Device) : Prop :=
  ∃ (file : DumpFile) (inventory : Inventory), file.load = .ok inventory ∧ device.In inventory

/-- A device that is loaded is well tagged. -/
theorem Device.Loaded.wellTagged {device : Device} (loaded : device.Loaded) :
    device.WellTagged := by
  -- A loaded device stands in an inventory that was loaded.
  obtain ⟨file, inventory, loaded, position, found⟩ := loaded
  exact (DumpFile.sound_of_load loaded).2 position device found

/-- Among well tagged devices every sorting is a total order. -/
theorem Device.transCmp_compare [Zone] {among : Device → Prop}
    (tagged : ∀ device, among device → device.WellTagged) (sorting : Sorting) :
    Std.TransCmp fun left right : Subtype among => compare sorting left.1 right.1 where
  -- Both laws ask of the devices no more than that they are well tagged.
  eq_swap {left right} := compare_swap sorting (tagged _ left.2) (tagged _ right.2)
  isLE_trans {left middle right} :=
    compare_trans sorting (tagged _ left.2) (tagged _ middle.2) (tagged _ right.2)

/-- An inventory compares well. Every property of its devices has the kind of its class, and so has
its value, if there is one. No comparison of one of its devices with one that is loaded, from the
same or another file, meets values of two kinds. Every sorting orders its devices totally, only
devices of one checksum tie, and sorting its snapshots puts no device before a lesser one. -/
structure Inventory.ComparesWell [Zone] (inventory : Inventory) : Prop where
  typed : ∀ device : Device, device.In inventory → ∀ cls,
    (device.property cls).kind = cls.kind ∧
      ∀ value, (device.property cls).value = some value → value.kind = cls.kind
  matched : ∀ device other : Device, device.In inventory → other.Loaded → ∀ cls,
    (device.property cls).compare? (other.property cls) =
      some ((device.property cls).compare (other.property cls))
  ordered : ∀ sorting, Std.TransCmp fun left right : { device : Device // device.In inventory } =>
    Device.compare sorting left.1 right.1
  ties : ∀ sorting, sorting.isActive = true → ∀ left right : Device, left.In inventory →
    right.In inventory → Device.compare sorting left right = .eq → left.hash = right.hash
  sorted : ∀ number preferences sorting,
    ((Snapshot.build ⟨number, inventory⟩ preferences).sorted sorting).Pairwise
      fun earlier later => ∃ earlierDevice laterDevice,
        (Snapshot.build ⟨number, inventory⟩ preferences).device? earlier = some earlierDevice ∧
        (Snapshot.build ⟨number, inventory⟩ preferences).device? later = some laterDevice ∧
        Device.compare sorting earlierDevice laterDevice ≠ .gt

namespace DumpFile

/-- What is loaded from a dump file compares well. -/
theorem comparesWell_of_load [Zone] {file : DumpFile} {inventory : Inventory}
    (loaded : file.load = .ok inventory) : inventory.ComparesWell := by
  obtain ⟨grown, tagged⟩ := sound_of_load loaded
  have each : ∀ device : Device, device.In inventory → device.WellTagged := by
    rintro device ⟨position, found⟩
    exact tagged position device found
  -- Values have the kinds of their classes throughout, and no more is needed to compare any two of
  -- them.
  constructor
  · intro device within cls
    exact ⟨rfl, each device within cls⟩
  · intro device other within otherLoaded cls
    exact Property.compare?_eq_some (each device within cls) (otherLoaded.wellTagged cls)
  · exact Device.transCmp_compare each
  · intro sorting active left right _ _ tie
    exact Device.hash_eq_of_compare (Sorting.isActive_iff.mp active) tie
  · intro number preferences sorting
    exact Snapshot.sorted_pairwise (Snapshot.wellTagged_build grown tagged preferences) sorting

/-- The document of a dump: a device whose number is a text, and below it one whose id as a property
is a number. -/
def mixedDocument : String :=
  "\x7b\"instance_id\":\"PC\",\"properties\":\x7b\"UiNumber\":\x7b\"String\":\"7\"\x7d\x7d," ++
    "\"children\":[\x7b\"instance_id\":\"FAN\",\"properties\":" ++
      "\x7b\"InstanceId\":\x7b\"UInt32\":5\x7d,\"UiNumber\":\x7b\"UInt32\":3\x7d\x7d\x7d]\x7d"

/-- Values that give a class one and other classes what others give them. -/
def valueOf (cls : PropertyClass) (value : Value)
    (others : PropertyClass → Option Value) : PropertyClass → Option Value :=
  fun other => if other = cls then some value else others other

/-- The device below. -/
def fan : Dump :=
  .node "FAN" false (valueOf .uiNumber (.uint32 3) (valueOf .instanceId (.uint32 5) fun _ => none))
    []

/-- The devices of this dump. -/
def mixed : Dump := .node "PC" false (valueOf .uiNumber (.text "7") fun _ => none) [fan]

/-- Their inventory has the one device below the other. -/
theorem inventory_mixed :
    mixed.inventory = (Inventory.empty.addRoot mixed.device).addChild 0 fan.device := by
  -- The work list is served twice.
  simp only [Dump.inventory, mixed, fan, Dump.fill, Dump.children, Dump.addChildren, List.foldl,
    Dump.placed, List.reverse_cons, List.reverse_nil, List.nil_append, List.append_nil]

/-- What is loaded from a file with this document compares well: the text is not taken for a number,
nor the number for an id. -/
theorem comparesWell_of_load_mixed :
    (file mixedDocument.toUTF8 0).load = .ok mixed.inventory ∧
    mixed.inventory.ComparesWell ∧
    [0, 1].map (fun position => (mixed.inventory.device? position).map fun device =>
      ((device.property .instanceId).value, (device.property .uiNumber).value)) =
      [some (some (.text "PC"), none), some (some (.text "FAN"), some (.uint32 3))] := by
  have read : Dump.read? mixedDocument = some mixed := by cbv
  have loaded := load_eq_ok read 0
  refine ⟨loaded, comparesWell_of_load loaded, ?_⟩
  -- The properties are read off the devices.
  rw [inventory_mixed]
  decide +kernel

end DumpFile

end DeviceBrowser

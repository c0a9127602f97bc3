import DeviceBrowser.Device
import DeviceBrowser.Text.Blank

/-! Sorting: the column by which devices are listed and its direction, how it is stored, and the
order of two devices under it. -/

namespace DeviceBrowser

open Text

variable [Zone]

/-- The direction of an order, or none. -/
inductive Direction where
  | unsorted
  | ascending
  | descending
deriving DecidableEq, Inhabited

namespace Direction

/-- The direction that the next click on the same column asks for. -/
def next : Direction → Direction
  | unsorted => ascending
  | ascending => descending
  | descending => unsorted

/-- The number under which a direction is stored. -/
def number : Direction → Nat
  | unsorted => 0
  | ascending => 1
  | descending => 2

/-- The direction of a stored number; any other number is none. -/
def ofNumber : Nat → Direction
  | 1 => ascending
  | 2 => descending
  | _ => unsorted

end Direction

/-- A column and the direction in which it orders the list. -/
structure Sorting where
  column : PropertyClass
  direction : Direction
deriving DecidableEq

namespace Sorting

/-- The order a new user finds: none. -/
def standard : Sorting := ⟨.name, .unsorted⟩

/-- Whether the devices are listed in an order, and not as a tree. -/
def isActive (sorting : Sorting) : Bool := sorting.direction != .unsorted

/-- The stored form: the position of the column, a comma and the direction's number. -/
def setting (sorting : Sorting) : String :=
  decimal sorting.column.index ++ "," ++ decimal sorting.direction.number

/-- Reads the stored form from its first two fields; one that is not readable stands for no
order. -/
def ofSetting (setting : String) : Sorting :=
  match split ',' setting with
  | column :: direction :: _ =>
    let found := (readNat 0x10000000000000000 (trim column)).bind PropertyClass.ofIndex?
    match found, readNat 0x100 (trim direction) with
    | some column, some number => ⟨column, .ofNumber number⟩
    | _, _ => standard
  | _ => standard

/-- The sorting after a click on the header of a column: the same column turns to its next
direction, another starts ascending. -/
def clicked (sorting : Sorting) (column : PropertyClass) : Sorting :=
  if sorting.column = column then { sorting with direction := sorting.direction.next }
  else ⟨column, .ascending⟩

end Sorting

/-- Orders two values of one kind; values of two kinds tie. -/
def Value.compare : Value → Value → Ordering
  | text left, text right => compareIgnoringCase left right
  | textList left, textList right => compareIgnoringCase (join ", " left) (join ", " right)
  | uint32 left, uint32 right => Ord.compare left right
  | int32 left, int32 right => Ord.compare left.toInt right.toInt
  | uint64 left, uint64 right => Ord.compare left right
  | int64 left, int64 right => Ord.compare left.toInt right.toInt
  | status left, status right => Ord.compare left.toInt right.toInt
  | guid left, guid right => left.compare right
  | flag left, flag right => Ord.compare left right
  | time left, time right => Ord.compare left.ticks.toInt right.ticks.toInt
  | bytes left, bytes right => Ord.compare left right
  | _, _ => .eq

/-- Orders two properties: those without a value come last. -/
def Property.compare (left right : Property) : Ordering :=
  match left.value, right.value with
  | none, none => .eq
  | some _, none => .lt
  | none, some _ => .gt
  | some left, some right => left.compare right

namespace Device

/-- Orders two devices by name and, where the names tie, by checksum. -/
def compareNames (left right : Device) : Ordering :=
  (compareIgnoringCase left.name right.name).then (Ord.compare left.hash right.hash)

/-- Turns an order around for a descending direction. -/
def directed (direction : Direction) (order : Ordering) : Ordering :=
  if direction = .descending then order.swap else order

/-- Orders two devices under a sorting. A device without a value comes last in both directions; ties
are broken by name and checksum, and without a direction all devices tie. -/
def compare (sorting : Sorting) (left right : Device) : Ordering :=
  if sorting.direction = .unsorted then .eq
  else if sorting.column = .name then directed sorting.direction (left.compareNames right)
  else
    let property := left.property sorting.column
    let other := right.property sorting.column
    match property.isValid, other.isValid with
    | true, false => .lt
    | false, true => .gt
    | _, _ => directed sorting.direction ((property.compare other).then (left.compareNames right))

end Device

end DeviceBrowser

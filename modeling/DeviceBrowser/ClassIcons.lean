import DeviceBrowser.Device
import DeviceBrowser.Table

/-! Icons of device classes: numbers given out in the order in which classes are first seen, zero
being the icon of devices without a class. -/

namespace DeviceBrowser

/-- The classes that have an icon: the number of each one, and the classes by their numbers, of
which the first is one. -/
structure ClassIcons where
  numbers : Table Guid UInt32
  classes : List Guid

namespace ClassIcons

/-- No class has an icon yet. -/
def none : ClassIcons := ⟨.empty, []⟩

/-- The number of the icon for devices without a class. -/
def generic : UInt32 := 0

/-- The icons with one more class. It has as its number how many classes there are then, in 32
bits. -/
def add (icons : ClassIcons) (cls : Guid) : UInt32 × ClassIcons :=
  let classes := icons.classes ++ [cls]
  let number := .ofNat classes.length
  (number, ⟨icons.numbers.insert cls number, classes⟩)

/-- The number of the icon for a device; a class seen for the first time is given the next one. -/
def iconFor (icons : ClassIcons) (device : Device) : UInt32 × ClassIcons :=
  match device.classGuid with
  | .none => (generic, icons)
  | some cls =>
    match icons.numbers.find? cls with
    | some number => (number, icons)
    | .none => icons.add cls

/-- The class that has the icon of a number. -/
def classOf? (icons : ClassIcons) (number : Nat) : Option Guid :=
  match number with
  | 0 => .none
  | slot + 1 => icons.classes[slot]?

/-- How many classes have an icon. -/
def size (icons : ClassIcons) : Nat := icons.classes.length

end ClassIcons

end DeviceBrowser

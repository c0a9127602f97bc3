import DeviceBrowser.Checksum
import DeviceBrowser.Property.Value
import DeviceBrowser.Text.Case

/-! Devices: an instance id, whether it is an interface, and a value or none for each property
class; and the facts that their properties tell. -/

namespace DeviceBrowser

open Text

/-- The checksum that identifies a device: that of the upper-case text of its instance id. -/
def idHash (id : String) : UInt32 :=
  checksum ((upperChars id.toList).flatMap String.utf8EncodeChar)

/-- A device of the system. -/
structure Device where
  id : String
  isInterface : Bool
  values : PropertyClass → Option Value

namespace Device

/-- A device about which only its instance id is known. -/
def ofId (id : String) (isInterface : Bool) : Device where
  id := id
  isInterface := isInterface
  values := fun cls => if cls = .instanceId then some (.text id) else none

/-- The device with one property's value replaced. -/
def set (device : Device) (cls : PropertyClass) (value : Value) : Device :=
  { device with values := fun other => if other = cls then some value else device.values other }

/-- A value set is the value read, and other classes keep theirs. -/
theorem values_set (device : Device) (cls other : PropertyClass) (value : Value) :
    (device.set cls value).values other =
      if other = cls then some value else device.values other := by
  -- Setting replaces the function at one class.
  rfl

/-- The property of a class. -/
def property (device : Device) (cls : PropertyClass) : Property :=
  ⟨cls.kind, device.values cls⟩

/-- The identifying checksum of a device. -/
def hash (device : Device) : UInt32 := idHash device.id

variable [Zone]

/-- The classes whose text may name a device, the first preferred. -/
def nameClasses : List PropertyClass := [.name, .friendlyName, .description]

/-- The display name: the first text that is not empty of the naming classes, else the id. -/
def name (device : Device) : String :=
  ((nameClasses.map fun cls => (device.property cls).text).find? fun text => !text.isEmpty).getD
    device.id

/-- The text of a device in a column: the column of names shows the display name. -/
def cellText (device : Device) (cls : PropertyClass) : String :=
  if cls = .name then device.name else (device.property cls).text

/-- Whether the device is connected. -/
def isPresent (device : Device) : Bool := (device.property .isPresent).isOn

/-- Whether the interface is enabled. -/
def interfaceEnabled (device : Device) : Bool := (device.property .interfaceEnabled).isOn

/-- Whether a bit of a 32-bit property is set. -/
def hasBit (device : Device) (cls : PropertyClass) (bit : UInt32) : Bool :=
  match (device.property cls).uint32? with
  | some number => number &&& bit != 0
  | none => false

/-- Whether the node status reports a problem. -/
def hasProblem (device : Device) : Bool := device.hasBit .nodeStatus 0x400

/-- The problem code. -/
def problemCode (device : Device) : Option UInt32 := (device.property .problemCode).uint32?

/-- Whether the problem is that the device was disabled. -/
def isProblemDisabled (device : Device) : Bool := device.problemCode == some 22

/-- Whether the capabilities say that the hardware is disabled. -/
def isHardwareDisabled (device : Device) : Bool := device.hasBit .capabilities 0x100

/-- Whether upper filter drivers are installed. -/
def hasUpperFilters (device : Device) : Bool := !(device.property .upperFilters).entries.isEmpty

/-- Whether lower filter drivers are installed. -/
def hasLowerFilters (device : Device) : Bool := !(device.property .lowerFilters).entries.isEmpty

/-- The identifier of the device's setup class. -/
def classGuid (device : Device) : Option Guid := (device.property .classGuid).guid?

/-- The setup class of software components. -/
def softwareComponentClass : Guid := ⟨0x5c4c3332344d483c8739259e934c9cc8#128⟩

/-- Whether the device is a software component. -/
def isSoftwareComponent (device : Device) : Bool :=
  device.classGuid == some softwareComponentClass

/-- When the device arrived last; a time that is not positive is unknown. -/
def lastArrival (device : Device) : Option FileTime :=
  (device.property .lastArrivalDate).time?.filter fun time => 0 < time.ticks

/-- The name of the service that drives the device. -/
def service (device : Device) : String := (device.property .service).text

/-- How recently a device must have arrived to count as just arrived, in ticks. -/
def arrivalWindow : Int := 10 * FileTime.ticksPerSecond

/-- Whether a device arrived less than the arrival window ago, or in the future. -/
def hasJustArrived (device : Device) (now : FileTime) : Bool :=
  match device.lastArrival with
  | some arrival => now.ticksSince arrival < arrivalWindow
  | none => false

end Device

end DeviceBrowser

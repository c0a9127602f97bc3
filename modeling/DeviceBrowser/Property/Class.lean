/-! The kinds of property values and the fixed classes of device properties, with what a column of
each class shows. -/

namespace DeviceBrowser

/-- The kinds of values that a property can hold. -/
inductive Kind where
  | text
  | textList
  | uint32
  | int32
  | uint64
  | int64
  | guid
  | flag
  | time
  | bytes
  | status
deriving DecidableEq, Inhabited

namespace Kind

/-- The name of a kind in device dumps. -/
def key : Kind → String
  | text => "String"
  | textList => "StringList"
  | uint32 => "UInt32"
  | int32 => "Int32"
  | uint64 => "UInt64"
  | int64 => "Int64"
  | guid => "Guid"
  | flag => "Boolean"
  | time => "TimeStamp"
  | bytes => "Binary"
  | status => "StatusCode"

/-- Every kind once. -/
def all : List Kind :=
  [text, textList, uint32, int32, uint64, int64, guid, flag, time, bytes, status]

/-- The kind of a name. -/
def ofKey? (name : String) : Option Kind :=
  all.find? fun kind => kind.key == name

end Kind

/-- The classes of properties that every device exposes, in their fixed order. -/
inductive PropertyClass where
  | name
  | manufacturer
  | service
  | className
  | enumeratorName
  | installDate
  | firstInstallDate
  | lastArrivalDate
  | lastRemovalDate
  | description
  | friendlyName
  | instanceId
  | parentInstanceId
  | pdoName
  | locationInfo
  | classGuid
  | driver
  | driverVersion
  | driverDate
  | firmwareVersion
  | hasProblem
  | problemCode
  | problemStatus
  | nodeStatus
  | capabilities
  | upperFilters
  | lowerFilters
  | hardwareIds
  | compatibleIds
  | configFlags
  | uiNumber
  | busTypeGuid
  | busNumber
  | security
  | address
  | extendedAddress
  | powerData
  | removalPolicy
  | installState
  | locationPaths
  | containerId
  | isPresent
  | interfaceEnabled
  | reportedIdsHash
  | rebootRequired
  | driverRank
  | sessionId
deriving DecidableEq, Inhabited

/-- What is fixed for a property class: its name in device dumps, the kind of its values, and the
title, first visibility and width of its column. -/
structure ClassFacts where
  key : String
  kind : Kind
  title : String
  shownAtFirst : Bool
  width : Nat

namespace PropertyClass

/-- The facts of each class. -/
def facts : PropertyClass → ClassFacts
  | name => ⟨"Name", .text, "Name", true, 400⟩
  | manufacturer => ⟨"Manufacturer", .text, "Manufacturer", true, 180⟩
  | service => ⟨"Service", .text, "Service", true, 120⟩
  | className => ⟨"Class", .text, "Class", true, 120⟩
  | enumeratorName => ⟨"EnumeratorName", .text, "Enumerator", true, 80⟩
  | installDate => ⟨"InstallDate", .time, "Installed", true, 160⟩
  | firstInstallDate => ⟨"FirstInstallDate", .time, "First installed", false, 160⟩
  | lastArrivalDate => ⟨"LastArrivalDate", .time, "Last arrival", false, 160⟩
  | lastRemovalDate => ⟨"LastRemovalDate", .time, "Last removal", false, 160⟩
  | description => ⟨"DeviceDesc", .text, "Description", false, 280⟩
  | friendlyName => ⟨"FriendlyName", .text, "Friendly name", false, 220⟩
  | instanceId => ⟨"InstanceId", .text, "Instance ID", false, 240⟩
  | parentInstanceId => ⟨"ParentInstanceId", .text, "Parent instance ID", false, 240⟩
  | pdoName => ⟨"PdoName", .text, "PDO name", false, 180⟩
  | locationInfo => ⟨"LocationInfo", .text, "Location info", false, 180⟩
  | classGuid => ⟨"ClassGuid", .guid, "Class GUID", false, 80⟩
  | driver => ⟨"Driver", .text, "Driver", false, 180⟩
  | driverVersion => ⟨"DriverVersion", .text, "Driver version", false, 80⟩
  | driverDate => ⟨"DriverDate", .time, "Driver date", false, 80⟩
  | firmwareVersion => ⟨"FirmwareVersion", .text, "Firmware version", false, 80⟩
  | hasProblem => ⟨"HasProblem", .flag, "Has problem", false, 80⟩
  | problemCode => ⟨"ProblemCode", .uint32, "Problem code", false, 80⟩
  | problemStatus => ⟨"ProblemStatus", .status, "Problem status", false, 80⟩
  | nodeStatus => ⟨"DevNodeStatus", .uint32, "Node status flags", false, 80⟩
  | capabilities => ⟨"DevCapabilities", .uint32, "Capabilities", false, 80⟩
  | upperFilters => ⟨"UpperFilters", .textList, "Upper filters", false, 80⟩
  | lowerFilters => ⟨"LowerFilters", .textList, "Lower filters", false, 80⟩
  | hardwareIds => ⟨"HardwareIds", .textList, "Hardware IDs", false, 80⟩
  | compatibleIds => ⟨"CompatibleIds", .textList, "Compatible IDs", false, 80⟩
  | configFlags => ⟨"ConfigFlags", .uint32, "Config flags", false, 80⟩
  | uiNumber => ⟨"UiNumber", .uint32, "Number", false, 80⟩
  | busTypeGuid => ⟨"BusTypeGuid", .guid, "Bus type GUID", false, 80⟩
  | busNumber => ⟨"BusNumber", .uint32, "Bus number", false, 80⟩
  | security => ⟨"Security", .bytes, "Security descriptor (binary)", false, 80⟩
  | address => ⟨"Address", .uint32, "Address", false, 80⟩
  | extendedAddress => ⟨"ExtendedAddress", .uint64, "Extended address", false, 80⟩
  | powerData => ⟨"PowerData", .bytes, "Power data", false, 80⟩
  | removalPolicy => ⟨"RemovalPolicy", .uint32, "Removal policy", false, 80⟩
  | installState => ⟨"InstallState", .uint32, "Install state", false, 80⟩
  | locationPaths => ⟨"LocationPaths", .textList, "Location paths", false, 80⟩
  | containerId => ⟨"ContainerId", .guid, "Container ID", false, 80⟩
  | isPresent => ⟨"IsPresent", .flag, "Present", false, 80⟩
  | interfaceEnabled => ⟨"InterfaceEnabled", .flag, "Interface enabled", false, 80⟩
  | reportedIdsHash => ⟨"ReportedDeviceIdsHash", .uint32, "Reported device IDs hash", false, 80⟩
  | rebootRequired => ⟨"IsRebootRequired", .flag, "Reboot required", false, 80⟩
  | driverRank => ⟨"DriverRank", .uint32, "Driver rank", false, 80⟩
  | sessionId => ⟨"SessionId", .uint32, "Session ID", false, 80⟩

/-- The name of a class in device dumps. -/
def key (cls : PropertyClass) : String := cls.facts.key

/-- The kind of value that a property of the class holds. -/
def kind (cls : PropertyClass) : Kind := cls.facts.kind

/-- The title of the column of a class. -/
def title (cls : PropertyClass) : String := cls.facts.title

/-- Every class, in order. -/
def all : List PropertyClass :=
  [name, manufacturer, service, className, enumeratorName, installDate, firstInstallDate,
    lastArrivalDate, lastRemovalDate, description, friendlyName, instanceId, parentInstanceId,
    pdoName, locationInfo, classGuid, driver, driverVersion, driverDate, firmwareVersion,
    hasProblem, problemCode, problemStatus, nodeStatus, capabilities, upperFilters,
    lowerFilters, hardwareIds, compatibleIds, configFlags, uiNumber, busTypeGuid, busNumber,
    security, address, extendedAddress, powerData, removalPolicy, installState, locationPaths,
    containerId, isPresent, interfaceEnabled, reportedIdsHash, rebootRequired, driverRank,
    sessionId]

/-- The position of a class in the fixed order. -/
def index (cls : PropertyClass) : Nat := cls.ctorIdx

/-- The class at a position. -/
def ofIndex? (position : Nat) : Option PropertyClass := all[position]?

/-- The class of a name. -/
def ofKey? (name : String) : Option PropertyClass :=
  all.find? fun cls => cls.key == name

/-- A class is found at its own position. -/
@[simp] theorem ofIndex?_index (cls : PropertyClass) : ofIndex? cls.index = some cls := by
  -- The list of all classes is written in the order of the constructors.
  cases cls <;> rfl

end PropertyClass

end DeviceBrowser

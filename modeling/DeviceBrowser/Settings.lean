import DeviceBrowser.Fault
import DeviceBrowser.Preferences
import DeviceBrowser.Table
import DeviceBrowser.Text.Blank
import DeviceBrowser.Text.Json.Printer
import DeviceBrowser.Text.Json.Reader

/-! Settings: integers and texts under names, their document, and the preferences they hold. -/

namespace DeviceBrowser

open Text

/-- A stored setting. -/
inductive Setting where
  | integer (value : Int64)
  | text (content : String)
deriving DecidableEq, Inhabited

/-- Settings by name, in the order of the names. -/
abbrev Settings := Table String Setting

namespace Setting

/-- The integer of a setting; a text counts when it spells one between blanks. -/
def integer? : Setting → Option Int64
  | integer value => some value
  | text content => (readInt64 (trim content)).map Int64.ofInt

/-- The text of a setting; an integer is written in decimal. -/
def textOf : Setting → String
  | integer value => signedDecimal value.toInt
  | text content => content

/-- How a setting is written in the document. -/
def written : Setting → List Char
  | integer value => signedChars value.toInt
  | text content => Json.quote content

/-- Reads a setting from the document: an integer of 64 bits, or a string. -/
def ofJson? : Json → Option Setting
  | .text content => content.map text
  | json => json.int64?.map integer

end Setting

/-- What documents of settings are written and read with: a printer of settings under their names,
in the order given, and a parser of any document. -/
structure JsonLibrary where
  print : List (String × Setting) → String
  parse : String → Option Json

/-- The printer and the reader at hand: a line for each setting, and the JSON grammar. -/
def JsonLibrary.standard : JsonLibrary where
  print rows := Json.printObject (rows.map fun row => (row.1, row.2.written))
  parse := Json.read?

namespace Settings

/-- The integer under a name. -/
def integer? (settings : Settings) (name : String) : Option Int64 :=
  (settings.find? name).bind Setting.integer?

/-- The text under a name. -/
def text? (settings : Settings) (name : String) : Option String :=
  (settings.find? name).map Setting.textOf

/-- The switch under a name: any integer but zero is on. -/
def flag? (settings : Settings) (name : String) : Option Bool :=
  (settings.integer? name).map (· != 0)

/-- Stores a switch as one or zero. -/
def flagSetting (on : Bool) : Setting := .integer (if on then 1 else 0)

/-- The document of settings. -/
def document (settings : Settings) : String := JsonLibrary.standard.print settings.rows

/-- Reads the members of a settings document; of two with one name the later counts. -/
def ofMembers? (members : List (Option String × Json)) : Option Settings :=
  members.foldlM (fun settings member => do
    some (settings.insert (← member.1) (← Setting.ofJson? member.2))) Table.empty

/-- Reads a settings document with a library. -/
def ofDocumentWith? (library : JsonLibrary) (document : String) : Option Settings :=
  match library.parse document with
  | some (.object members) => ofMembers? members
  | _ => none

/-- The name under which a switch of the view is stored. -/
def toggleName : Toggle → String
  | .autoRefresh => "DeviceTreeAutoRefresh"
  | .showDisconnected => "DeviceTreeShowDisconnected"
  | .showSoftwareComponents => "DeviceShowSoftwareComponents"
  | .showInterfaces => "DeviceShowDeviceInterfaces"
  | .showDisabledInterfaces => "DeviceShowDisabledDeviceInterfaces"
  | .highlightUpperFiltered => "DeviceTreeHighlightUpperFiltered"
  | .highlightLowerFiltered => "DeviceTreeHighlightLowerFiltered"

/-- The name under which the columns of the view are stored. -/
def columnsName : String := "DeviceTreeColumns"

/-- The name under which the order of the view is stored. -/
def sortName : String := "DeviceTreeSort"

/-- The switch under a name, or what it is without a setting. -/
def flagOr (settings : Settings) (name : String) (otherwise : Bool) : Bool :=
  (settings.flag? name).getD otherwise

/-- The color under a name, or what it is without a setting. Of the integer the lowest 32 bits
count. -/
def colorOr (settings : Settings) (name : String) (otherwise : Color) : Color :=
  match settings.integer? name with
  | some value => Color.ofNumber value.toUInt64.toUInt32
  | none => otherwise

/-- The span of milliseconds under a name, or what it is without a setting. A negative span is
none. -/
def durationOr (settings : Settings) (name : String) (otherwise : Duration) : Duration :=
  match settings.integer? name with
  | some value => .ofMillis value.toInt.toNat
  | none => otherwise

/-- The preferences that settings hold; what is not stored is as a new user finds it. -/
def preferences (settings : Settings) : Preferences :=
  let base := Preferences.standard
  let toggle := fun toggle => settings.flagOr (toggleName toggle) (base.isOn toggle)
  { autoRefresh := toggle .autoRefresh
    showDisconnected := toggle .showDisconnected
    showSoftwareComponents := toggle .showSoftwareComponents
    showInterfaces := toggle .showInterfaces
    showDisabledInterfaces := toggle .showDisabledInterfaces
    highlightUpperFiltered := toggle .highlightUpperFiltered
    highlightLowerFiltered := toggle .highlightLowerFiltered
    showRoot := settings.flagOr "DeviceShowRoot" base.showRoot
    sortChildren := settings.flagOr "DeviceSortChildrenByName" base.sortChildren
    highlightFor := settings.durationOr "DeviceHighlightingDuration" base.highlightFor
    colors :=
      { problem := settings.colorOr "DeviceProblemColor" base.colors.problem
        disabled := settings.colorOr "DeviceDisabledColor" base.colors.disabled
        disconnected := settings.colorOr "DeviceDisconnectedColor" base.colors.disconnected
        highlight := settings.colorOr "DeviceHighlightColor" base.colors.highlight
        interface := settings.colorOr "DeviceInterfaceColor" base.colors.interface
        disabledInterface :=
          settings.colorOr "DeviceDisabledInterfaceColor" base.colors.disabledInterface
        arrived := settings.colorOr "DeviceArrivedColor" base.colors.arrived } }

end Settings

end DeviceBrowser

import DeviceBrowser.Color
import DeviceBrowser.Device
import DeviceBrowser.Duration

/-! Preferences: which devices the tree shows, how it orders and colors them, and the switches of
the view among them. -/

namespace DeviceBrowser

/-- The colors of devices by their condition. -/
structure ColorScheme where
  problem : Color
  disabled : Color
  disconnected : Color
  highlight : Color
  interface : Color
  disabledInterface : Color
  arrived : Color
deriving DecidableEq

/-- The colors a new user finds. -/
def ColorScheme.standard : ColorScheme where
  problem := ⟨0xb4, 0x3c, 0x3c⟩
  disabled := ⟨0x5a, 0x5a, 0x64⟩
  disconnected := ⟨0x46, 0x46, 0x46⟩
  highlight := ⟨0x8c, 0x6e, 0x1e⟩
  interface := ⟨0x32, 0x5a, 0x8c⟩
  disabledInterface := ⟨0x3c, 0x46, 0x5a⟩
  arrived := ⟨0x2d, 0x8c, 0x3c⟩

/-- What the user prefers to see in the device tree. -/
structure Preferences where
  autoRefresh : Bool
  showDisconnected : Bool
  showSoftwareComponents : Bool
  showInterfaces : Bool
  showDisabledInterfaces : Bool
  highlightUpperFiltered : Bool
  highlightLowerFiltered : Bool
  showRoot : Bool
  sortChildren : Bool
  highlightFor : Duration
  colors : ColorScheme
deriving DecidableEq

/-- The switches that the menus offer. -/
inductive Toggle where
  | autoRefresh
  | showDisconnected
  | showSoftwareComponents
  | showInterfaces
  | showDisabledInterfaces
  | highlightUpperFiltered
  | highlightLowerFiltered
deriving DecidableEq, Inhabited

/-- What flipping a switch asks for: nothing, a new tree, or the same tree drawn anew. -/
inductive ToggleEffect where
  | nothing
  | rebuild
  | redraw
deriving DecidableEq

namespace Toggle

/-- Every switch, in the order of the menus. -/
def all : List Toggle :=
  [autoRefresh, showDisconnected, showSoftwareComponents, showInterfaces, showDisabledInterfaces,
    highlightUpperFiltered, highlightLowerFiltered]

/-- The label of a switch. -/
def label : Toggle → String
  | autoRefresh => "Auto refresh"
  | showDisconnected => "Show disconnected devices"
  | showSoftwareComponents => "Show software components"
  | showInterfaces => "Show device interfaces"
  | showDisabledInterfaces => "Show disabled device interfaces"
  | highlightUpperFiltered => "Highlight upper filtered"
  | highlightLowerFiltered => "Highlight lower filtered"

/-- What flipping a switch asks for. -/
def effect : Toggle → ToggleEffect
  | autoRefresh => .nothing
  | showDisconnected => .rebuild
  | showSoftwareComponents => .rebuild
  | showInterfaces => .rebuild
  | showDisabledInterfaces => .rebuild
  | highlightUpperFiltered => .redraw
  | highlightLowerFiltered => .redraw

end Toggle

namespace Preferences

/-- The preferences a new user finds. -/
def standard : Preferences where
  autoRefresh := true
  showDisconnected := false
  showSoftwareComponents := true
  showInterfaces := false
  showDisabledInterfaces := false
  highlightUpperFiltered := false
  highlightLowerFiltered := false
  showRoot := true
  sortChildren := true
  highlightFor := .ofMillis 3000
  colors := .standard

/-- Whether a switch is on. -/
def isOn (preferences : Preferences) : Toggle → Bool
  | .autoRefresh => preferences.autoRefresh
  | .showDisconnected => preferences.showDisconnected
  | .showSoftwareComponents => preferences.showSoftwareComponents
  | .showInterfaces => preferences.showInterfaces
  | .showDisabledInterfaces => preferences.showDisabledInterfaces
  | .highlightUpperFiltered => preferences.highlightUpperFiltered
  | .highlightLowerFiltered => preferences.highlightLowerFiltered

/-- The preferences with one switch set. -/
def set (preferences : Preferences) (toggle : Toggle) (on : Bool) : Preferences :=
  match toggle with
  | .autoRefresh => { preferences with autoRefresh := on }
  | .showDisconnected => { preferences with showDisconnected := on }
  | .showSoftwareComponents => { preferences with showSoftwareComponents := on }
  | .showInterfaces => { preferences with showInterfaces := on }
  | .showDisabledInterfaces => { preferences with showDisabledInterfaces := on }
  | .highlightUpperFiltered => { preferences with highlightUpperFiltered := on }
  | .highlightLowerFiltered => { preferences with highlightLowerFiltered := on }

/-- Whether two preferences may ask for different trees: one of the switches that show devices, the
root or the order of children differs. -/
def asksOtherTree (left right : Preferences) : Bool :=
  left.showDisconnected != right.showDisconnected ||
    left.showSoftwareComponents != right.showSoftwareComponents ||
    left.showInterfaces != right.showInterfaces ||
    left.showDisabledInterfaces != right.showDisabledInterfaces ||
    left.showRoot != right.showRoot ||
    left.sortChildren != right.sortChildren

/-- Whether the tree shows a device. Interfaces have switches of their own; other devices are shown
when connected, save hidden software components, and all of them when disconnected ones are. -/
def includes (preferences : Preferences) (device : Device) : Bool :=
  if device.isInterface then
    preferences.showInterfaces &&
      (preferences.showDisabledInterfaces || device.interfaceEnabled)
  else
    preferences.showDisconnected ||
      ((preferences.showSoftwareComponents || !device.isSoftwareComponent) && device.isPresent)

/-- A switch that was set is as it was set. -/
@[simp] theorem isOn_set (preferences : Preferences) (toggle : Toggle) (on : Bool) :
    (preferences.set toggle on).isOn toggle = on := by
  -- Each switch is read from the field that setting it writes.
  cases toggle <;> rfl

/-- Setting one switch leaves the others. -/
theorem isOn_set_of_ne (preferences : Preferences) {toggle other : Toggle} (on : Bool)
    (apart : other ≠ toggle) : (preferences.set toggle on).isOn other = preferences.isOn other := by
  -- Different switches have different fields.
  cases toggle <;> cases other <;> first | rfl | exact absurd rfl apart

end Preferences

end DeviceBrowser

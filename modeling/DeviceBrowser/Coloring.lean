import DeviceBrowser.Preferences

/-! Coloring: the color of a device's row by its condition. -/

namespace DeviceBrowser

namespace Device

/-- The color of a device that is not an interface and not highlighted: of its problem first, then
of its absence, of its being disabled, and of its filter drivers. -/
def conditionColor (device : Device) (preferences : Preferences) : Option Color :=
  let colors := preferences.colors
  if device.hasProblem && !device.isProblemDisabled then some colors.problem
  else if !device.isPresent then some colors.disconnected
  else if device.isHardwareDisabled || device.isProblemDisabled then some colors.disabled
  else if (preferences.highlightUpperFiltered && device.hasUpperFilters) ||
      (preferences.highlightLowerFiltered && device.hasLowerFilters) then some colors.highlight
  else none

/-- The color of a device's row: that of a running highlight, else that of the interface's or the
device's condition; none for a device without anything to tell. -/
def color (device : Device) (highlight : Option Color) (preferences : Preferences) :
    Option Color :=
  match highlight with
  | some color => some color
  | none =>
    if device.isInterface then
      some (if device.interfaceEnabled then preferences.colors.interface
        else preferences.colors.disabledInterface)
    else device.conditionColor preferences

end Device

end DeviceBrowser

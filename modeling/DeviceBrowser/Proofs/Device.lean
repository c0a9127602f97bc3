import DeviceBrowser.Inventory.Dump

/-! Devices whose values have the kinds of their classes, and that devices made by the program are
such. -/

namespace DeviceBrowser

namespace Device

/-- A device about which only its id is known and that it is connected. -/
def connected (id : String) : Device := (Device.ofId id false).set .isPresent (.flag true)

/-- Every value of a device has the kind of its class. -/
def WellTagged (device : Device) : Prop :=
  ∀ cls value, device.values cls = some value → value.kind = cls.kind

/-- A device about which only its id is known is well tagged. -/
theorem wellTagged_ofId (id : String) (isInterface : Bool) : (ofId id isInterface).WellTagged := by
  -- The id is the only value of such a device, and it is a text as its class asks for.
  intro cls value found
  simp only [ofId] at found
  split at found
  · rename_i isId
    cases found
    rw [isId]
    rfl
  · cases found

/-- Setting a value of the class's kind keeps a device well tagged. -/
theorem WellTagged.set {device : Device} (tagged : device.WellTagged) {cls : PropertyClass}
    {value : Value} (kind : value.kind = cls.kind) : (device.set cls value).WellTagged := by
  -- Only the value that was set is new.
  intro other otherValue found
  rw [values_set] at found
  split at found
  · rename_i same
    cases found
    rw [same, kind]
  · exact tagged other otherValue found

end Device

/-- The device of a dump is well tagged, as values of other kinds are left out. -/
theorem Dump.device_wellTagged (dump : Dump) : dump.device.WellTagged := by
  -- A value of another kind is dropped, and where the dump has none the id may still be known.
  intro cls value found
  have known := Device.wellTagged_ofId dump.id dump.isInterface cls value
  simp only [Dump.device] at found
  split at found
  · split at found
    · rename_i kind
      cases found
      exact kind
    · exact known found
  · exact known found

end DeviceBrowser

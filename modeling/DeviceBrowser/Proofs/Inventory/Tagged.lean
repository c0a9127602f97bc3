import DeviceBrowser.Proofs.Device
import DeviceBrowser.Proofs.Inventory.Dump

/-! Inventories whose devices have values of the kinds of their classes, and that the inventories of
dumps are such. -/

namespace DeviceBrowser

namespace Inventory

/-- Every device has values of the kinds of their classes. -/
def WellTagged (inventory : Inventory) : Prop :=
  ∀ position device, inventory.device? position = some device → device.WellTagged

/-- There is no device to be tagged. -/
theorem wellTagged_empty : empty.WellTagged := by
  -- Nothing is found in it.
  intro position device found
  cases found

variable {inventory : Inventory} {device : Device}

/-- Adding a root leaves the devices found before. -/
theorem device?_addRoot (position : Nat) : (inventory.addRoot device).device? position =
    if position = inventory.size then some device else inventory.device? position := by
  -- Reading at the new position gives the new device, and elsewhere what was there.
  rw [device?, entry?_addRoot]
  split <;> rfl

/-- Adding a child leaves the devices found before, and only relinks them. -/
theorem device?_addChild (parent position : Nat) :
    (inventory.addChild parent device).device? position =
      if position = inventory.size then some device else inventory.device? position := by
  -- The entries that change are those of the parent and of its last child, in their links.
  have relinked : ∀ entry : Entry,
      (inventory.relinked parent position entry).device = entry.device := by
    intro entry
    simp only [Inventory.relinked, Entry.adopt]
    split <;> split <;> rfl
  rw [device?, entry?_addChild, Option.map_map, Function.comp_def]
  simp only [relinked]
  split <;> rfl

/-- A device that is well tagged may be added as a root. -/
theorem WellTagged.addRoot (tagged : inventory.WellTagged) (new : device.WellTagged) :
    (inventory.addRoot device).WellTagged := by
  -- The device that is found is the new one or an earlier one.
  intro position other found
  rw [device?_addRoot] at found
  split at found
  · cases found
    exact new
  · exact tagged position other found

/-- A device that is well tagged may be added below another. -/
theorem WellTagged.addChild (tagged : inventory.WellTagged) (parent : Nat)
    (new : device.WellTagged) : (inventory.addChild parent device).WellTagged := by
  -- The new links are no matter: the device that is found is the new one or an earlier one.
  intro position other found
  rw [device?_addChild] at found
  split at found
  · cases found
    exact new
  · exact tagged position other found

end Inventory

namespace Dump

variable {inventory : Inventory}

/-- Adding the devices of dumps keeps an inventory well tagged. -/
theorem wellTagged_addChildren (tagged : inventory.WellTagged) (parent : Nat)
    (children : List Dump) : (addChildren parent inventory children).WellTagged := by
  -- The children are added one after the other, and each device of a dump is well tagged.
  induction children generalizing inventory with
  | nil => exact tagged
  | cons child rest ih => exact ih (tagged.addChild parent child.device_wellTagged)

/-- Serving a work list keeps an inventory well tagged. -/
theorem wellTagged_fill (tagged : inventory.WellTagged) (work : List (Nat × Dump)) :
    (fill inventory work).WellTagged := by
  -- The induction follows the rounds of the work list, each of which adds the children of one dump.
  fun_induction fill inventory work with
  | case1 inventory => exact tagged
  | case2 inventory parent dump rest ih =>
    exact ih (wellTagged_addChildren tagged parent dump.children)

/-- The inventory of a dump is well tagged. -/
theorem wellTagged_inventory (dump : Dump) : dump.inventory.WellTagged :=
  -- The root is well tagged, and filling keeps that up.
  wellTagged_fill (Inventory.wellTagged_empty.addRoot dump.device_wellTagged) _

end Dump

end DeviceBrowser

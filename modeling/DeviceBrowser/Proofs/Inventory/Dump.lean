import DeviceBrowser.Inventory.Source
import DeviceBrowser.Proofs.Inventory.Growth
import DeviceBrowser.Proofs.Text.Fields

/-! The inventory of a dump grows one device at a time, each below a device that is there already,
and it ends with every device of the dump. -/

namespace DeviceBrowser

namespace Dump

/-- Adding devices below one that is there grows an inventory by as many. -/
theorem grown_addChildren {inventory : Inventory} (grown : inventory.Grown) {parent : Nat}
    (present : parent < inventory.size) (children : List Dump) :
    (addChildren parent inventory children).Grown ∧
      (addChildren parent inventory children).size = inventory.size + children.length := by
  -- The parent stays where it is while the children are added behind it.
  induction children generalizing inventory with
  | nil => exact ⟨grown, rfl⟩
  | cons child rest ih =>
    have larger : (inventory.addChild parent child.device).size = inventory.size + 1 :=
      inventory.size_addChild parent child.device
    have stays : parent < (inventory.addChild parent child.device).size := by omega
    obtain ⟨allGrown, size⟩ := ih (grown.addChild present child.device) stays
    refine ⟨allGrown, size.trans ?_⟩
    rw [larger, List.length_cons]
    omega

/-- Each dump is placed once. -/
@[simp] theorem length_placed (first : Nat) (dumps : List Dump) :
    (placed first dumps).length = dumps.length := by
  -- Placing keeps the dumps in place, so their number is the same.
  have kept := congrArg List.length (map_placed first dumps)
  rwa [List.length_map] at kept

/-- Dumps are placed at positions that follow each other. -/
theorem map_position_placed (first : Nat) (dumps : List Dump) :
    (placed first dumps).map (·.1) = List.range' first dumps.length := by
  -- Each dump stands one position behind the one before it.
  induction dumps generalizing first with
  | nil => rfl
  | cons dump rest ih => simp [placed, ih, List.range'_succ]

/-- Dumps are placed from the first position on, and no more of them than there are. -/
theorem bounds_of_mem_placed {first : Nat} {dumps : List Dump} {item : Nat × Dump}
    (member : item ∈ placed first dumps) : first ≤ item.1 ∧ item.1 < first + dumps.length := by
  -- The positions are those of a range, whose members are bounded on both sides.
  have position : item.1 ∈ (placed first dumps).map (·.1) := List.mem_map_of_mem member
  rwa [map_position_placed, List.mem_range'_1] at position

/-- A dump that gives way to its children on the work list counts one more than they do. -/
theorem workload_served (dump : Dump) (first parent : Nat) (rest : List (Nat × Dump)) :
    workload ((placed first dump.children).reverse ++ rest) + 1 =
      workload ((parent, dump) :: rest) := by
  -- A dump counts itself and its children; what changes is the order alone, which a sum ignores.
  cases dump with
  | node id isInterface values children =>
    simp only [workload, List.map_append, List.map_reverse, map_placed, countAll_append,
      countAll_reverse, List.map_cons, countAll, count, Dump.children]
    omega

/-- Serving a work list grows an inventory by all that is below the devices on it. -/
theorem grown_fill {inventory : Inventory} {work : List (Nat × Dump)} (grown : inventory.Grown)
    (present : ∀ item ∈ work, item.1 < inventory.size) :
    (fill inventory work).Grown ∧
      (fill inventory work).size + work.length = inventory.size + workload work := by
  -- The induction follows the work list. A device is put on it only after it was added, and so
  -- children are only ever added below devices that are there.
  fun_induction fill inventory work with
  | case1 inventory => exact ⟨grown, rfl⟩
  | case2 inventory parent dump rest ih =>
    obtain ⟨served, others⟩ := List.forall_mem_cons.mp present
    obtain ⟨added, size⟩ : _ ∧ (addChildren parent inventory dump.children).size = _ :=
      grown_addChildren grown served dump.children
    have waits : ∀ item ∈ (placed inventory.size dump.children).reverse ++ rest,
        item.1 < (addChildren parent inventory dump.children).size := by
      intro item member
      rcases List.mem_append.mp member with below | earlier
      · rw [size]
        exact (bounds_of_mem_placed (List.mem_reverse.mp below)).2
      · have within := others item earlier
        omega
    obtain ⟨filled, counted⟩ := ih added waits
    refine ⟨filled, ?_⟩
    -- The device that was served leaves the list, and its children are counted in it from now on.
    have length : ((placed inventory.size dump.children).reverse ++ rest).length =
        dump.children.length + rest.length := by
      rw [List.length_append, List.length_reverse, length_placed]
    have left := workload_served dump inventory.size parent rest
    rw [List.length_cons]
    omega

/-- The inventory of a dump grew by devices that were found one after the other, as many as the
dump has. -/
theorem grown_inventory (dump : Dump) :
    dump.inventory.Grown ∧ dump.inventory.size = dump.count := by
  -- The root is there at the start, and all others come from the work list that it makes.
  have root : (Inventory.empty.addRoot dump.device).Grown := .addRoot .empty dump.device
  have size : (Inventory.empty.addRoot dump.device).size = 1 :=
    Inventory.size_addRoot .empty dump.device
  have present : ∀ item ∈ [(0, dump)], item.1 < (Inventory.empty.addRoot dump.device).size := by
    intro item isRoot
    rw [List.mem_singleton.mp isRoot, size]
    exact Nat.one_pos
  obtain ⟨grown, counted⟩ := grown_fill root present
  have workload : workload [(0, dump)] = dump.count := Nat.add_zero dump.count
  rw [size, workload, List.length_singleton] at counted
  refine ⟨grown, ?_⟩
  rw [inventory]
  omega

end Dump

/-- What is loaded from a dump file is the inventory of a dump. -/
theorem DumpFile.exists_dump_of_load {file : DumpFile} {inventory : Inventory}
    (loaded : file.load = .ok inventory) : ∃ dump : Dump, inventory = dump.inventory := by
  -- Anything but a file with a readable document is a fault.
  cases file with
  | missing => cases loaded
  | directory => cases loaded
  | file content modified =>
    simp only [load] at loaded
    split at loaded
    · cases loaded
    · split at loaded
      · cases loaded
      · rename_i dump _
        cases loaded
        exact ⟨dump, rfl⟩

/-- A file with the document of a dump is loaded as the inventory of the dump. -/
theorem DumpFile.load_eq_ok {document : String} {dump : Dump}
    (read : Dump.read? document = some dump) (modified : Int) :
    (file document.toUTF8 modified).load = .ok dump.inventory := by
  -- The bytes of a text are read back as that text.
  simp only [load, Text.fromUTF8?_toUTF8, read]

end DeviceBrowser

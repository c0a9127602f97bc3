import DeviceBrowser.Export
import DeviceBrowser.Proofs.Snapshot.WellFormed
import DeviceBrowser.Proofs.Text.Csv
import DeviceBrowser.Proofs.Text.Fields

/-! The table of nodes can be read back: its titles come first, and then the texts of each node. -/

namespace DeviceBrowser.Snapshot

/-- The text of a node in a column is that of its device. -/
theorem cellText_of_device [Zone] {snapshot : Snapshot} {number : Nat} {device : Device}
    (found : snapshot.device? number = some device) :
    snapshot.cellText number = device.cellText := by
  -- A cell asks for the device of its node.
  funext cls
  rw [cellText, found]

/-- Whatever writer of records makes the table, its bytes are read as the record of the titles and
one record for each node, in order, with the texts of its device; the number of rows is that of the
nodes' records. -/
theorem tableWith_reads_back [Zone] {record : List String → List Char}
    (writes : Text.Csv.Writes record) {snapshot : Snapshot} (built : snapshot.Built)
    {nodes : List Nat} (within : ∀ number ∈ nodes, number < snapshot.size)
    {columns : List PropertyClass} (shown : columns ≠ []) :
    ∃ rows : List (List String),
      (String.fromUTF8? (snapshot.tableWith record nodes columns).2.toUTF8).bind Text.Csv.read? =
        some (columns.map (·.title) :: rows) ∧
      (snapshot.tableWith record nodes columns).1 = rows.length ∧
      List.Forall₂ (fun number row => ∃ device, snapshot.device? number = some device ∧
        row = columns.map device.cellText) nodes rows := by
  refine ⟨nodes.map fun number => columns.map (snapshot.cellText number), ?_, ?_, ?_⟩
  · rw [Text.fromUTF8?_toUTF8, Option.bind_some, tableWith]
    apply writes.read?_writeWith
    -- There is a column, and so no record is without a field.
    simpa [records] using ⟨shown, fun _ _ => shown⟩
  · simp [tableWith]
  · rw [List.forall₂_map_right_iff, List.forall₂_same]
    intro number member
    obtain ⟨device, found⟩ := built.device (within number member)
    exact ⟨device, found, by rw [cellText_of_device found]⟩

/-- The bytes of a table are read as the record of the titles and one record for each node, in
order, with the texts of its device; the number of rows is that of the nodes' records. -/
theorem table_reads_back [Zone] {snapshot : Snapshot} (built : snapshot.Built) {nodes : List Nat}
    (within : ∀ number ∈ nodes, number < snapshot.size) {columns : List PropertyClass}
    (shown : columns ≠ []) :
    ∃ rows : List (List String),
      (String.fromUTF8? (snapshot.table nodes columns).2.toUTF8).bind Text.Csv.read? =
        some (columns.map (·.title) :: rows) ∧
      (snapshot.table nodes columns).1 = rows.length ∧
      List.Forall₂ (fun number row => ∃ device, snapshot.device? number = some device ∧
        row = columns.map device.cellText) nodes rows :=
  -- Records are written in one of the ways that are read.
  tableWith_reads_back Text.Csv.writes_writeRecord built within shown

/-- A device whose service is named with all that needs quotes, above one without a service. -/
def awkward : Inventory :=
  (Inventory.empty.addRoot ((Device.ofId "PC" false).set .service
    (.text "a,\"b\"\r\nc"))).addChild 0 (Device.ofId "PEN" false)

/-- The snapshot of these devices. -/
def awkwardBuilt : Snapshot := build ⟨1, awkward⟩ (Preferences.standard.set .showDisconnected true)

/-- The services of both devices, one of them empty, are read back as often as each is listed. -/
theorem table_reads_back_awkward : awkwardBuilt.Built ∧ awkwardBuilt.size = 2 ∧
    awkwardBuilt.table [0, 1, 0] [.service] =
      (3, "Service\n\"a,\"\"b\"\"\r\nc\"\n\"\"\n\"a,\"\"b\"\"\r\nc\"\n") ∧
    ∃ rows : List (List String),
      (String.fromUTF8? (awkwardBuilt.table [0, 1, 0] [.service]).2.toUTF8).bind Text.Csv.read? =
        some (["Service"] :: rows) ∧ rows.length = 3 := by
  -- The snapshot is built of devices that were added one by one, and shows both.
  have grown : awkward.Grown := .addChild (.addRoot .empty _) (by decide) _
  have built : awkwardBuilt.Built := built_build grown _
  have size : awkwardBuilt.size = 2 := by decide +kernel
  have within : ∀ number ∈ [0, 1, 0], number < awkwardBuilt.size := by rw [size]; decide
  obtain ⟨rows, reads, count, _⟩ := table_reads_back built within (List.cons_ne_nil .service [])
  exact ⟨built, size, by decide +kernel, rows, reads, count.symm⟩

end DeviceBrowser.Snapshot

import DeviceBrowser.Proofs.Menu.Commands
import DeviceBrowser.Proofs.Text.Lines

/-! Copied rows: the text on the clipboard has a line for each selected row and a field for each
cell exactly if no cell holds what separates them. -/

namespace DeviceBrowser.Menu

open Text

section AnyZone

variable {zone : Zone}

/-- The cells of the selected rows. -/
def cells [Zone] (menu : Menu) : List (List String) :=
  menu.selection.map fun number => menu.columns.map (menu.snapshot.cellText number)

/-- The text of the selection is that of its cells, row by row. -/
theorem selectionText_eq (menu : Menu) : menu.selectionText = writeRows menu.cells := by
  -- Cells are joined by tabs and rows are ended by newlines in both.
  simp [selectionText, rowsText, writeRows, writeLines, cells, Function.comp_def]

/-- What holds of each cell of the selected rows holds of each text of a selected node in a
column. -/
theorem forall_cells_iff {menu : Menu} {property : String → Prop} :
    (∀ row ∈ menu.cells, ∀ cell ∈ row, property cell) ↔
      ∀ number ∈ menu.selection, ∀ cls ∈ menu.columns,
        property (menu.snapshot.cellText number cls) := by
  -- The rows are those of the selected nodes, and their cells those of the columns.
  simp [cells]

/-- Copying a selection to a clipboard leaves what was there, if nothing is selected, and otherwise
puts the text of the selected rows there. The text has one line for each row exactly if no cell
holds a newline, and its lines have the cells of the rows as fields exactly if none holds a tab
either. -/
theorem onSnapshot_copies (snapshot : Snapshot) (node : Option Nat) (selection : List Nat)
    {columns : List PropertyClass} (shown : columns ≠ []) (column : Option PropertyClass)
    (preferences : Preferences) (elevated : Bool) (clipboard : Option String) :
    let menu := onSnapshot snapshot node selection columns column preferences elevated
    menu.execute .clipboardOnly clipboard .copy =
        (.nothing, if selection = [] then clipboard else some menu.selectionText) ∧
      ((endedLines menu.selectionText).length = selection.length ↔
        ∀ number ∈ selection, ∀ cls ∈ columns, '\n' ∉ (snapshot.cellText number cls).toList) ∧
      (rowsOf menu.selectionText =
          selection.map (fun number => columns.map (snapshot.cellText number)) ↔
        ∀ number ∈ selection, ∀ cls ∈ columns, '\t' ∉ (snapshot.cellText number cls).toList ∧
          '\n' ∉ (snapshot.cellText number cls).toList) := by
  intro menu
  refine ⟨?copies, ?lines, ?fields⟩
  case copies =>
    -- Copying is offered where something is selected, and the clipboard takes the text.
    have permitted : menu.isEnabled .copy = !selection.isEmpty :=
      isEnabled_onSnapshot snapshot node selection columns column preferences elevated .copy
    cases selection with
    | nil => exact execute_of_disabled permitted _ _
    | cons number rest => exact execute_of_enabled permitted _ _
  case lines =>
    have rows : menu.cells.length = selection.length := List.length_map _
    rw [selectionText_eq, ← rows, length_endedLines_eq_iff]
    exact forall_cells_iff
  case fields =>
    -- A row without cells would be read as one empty cell, but there is a column.
    have filled : ∀ row ∈ menu.cells, row ≠ [] := by
      intro row member
      obtain ⟨number, _, rfl⟩ := List.mem_map.mp member
      exact fun empty => shown (List.map_eq_nil_iff.mp empty)
    rw [selectionText_eq]
    exact (rowsOf_writeRows_eq_iff filled).trans forall_cells_iff

end AnyZone

/-- The menu over a device with a service and one without below it, both selected. -/
def servedMenu (service : String) : Menu :=
  onSnapshot
    (.build ⟨1, (Inventory.empty.addRoot ((Device.ofId "PC" false).set .service
      (.text service))).addChild 0 (Device.ofId "PEN" false)⟩
      (Preferences.standard.set .showDisconnected true))
    none [1, 0] [.name, .service] none .standard false

/-- Cells with commas, quotes and blanks, and empty ones, are found again. -/
theorem onSnapshot_copies_quoted : [PropertyClass.name, .service] ≠ [] ∧
    (servedMenu "a, \"b\" ").execute .clipboardOnly none .copy =
      (.nothing, some "PEN\t\nPC\ta, \"b\" \n") ∧
    rowsOf (servedMenu "a, \"b\" ").selectionText = [["PEN", ""], ["PC", "a, \"b\" "]] := by
  have shown : [PropertyClass.name, .service] ≠ [] := List.cons_ne_nil _ _
  obtain ⟨copies, _, found⟩ := onSnapshot_copies (servedMenu "a, \"b\" ").snapshot none [1, 0] shown
    none .standard false none
  have text : (servedMenu "a, \"b\" ").selectionText = "PEN\t\nPC\ta, \"b\" \n" := by
    decide +kernel
  -- None of the four cells holds a tab or a newline, so they read back.
  have free : ∀ number ∈ [1, 0], ∀ cls ∈ [PropertyClass.name, .service],
      '\t' ∉ ((servedMenu "a, \"b\" ").snapshot.cellText number cls).toList ∧
        '\n' ∉ ((servedMenu "a, \"b\" ").snapshot.cellText number cls).toList := by
    decide +kernel
  have cells : [1, 0].map (fun number => [PropertyClass.name, .service].map
      ((servedMenu "a, \"b\" ").snapshot.cellText number)) =
        [["PEN", ""], ["PC", "a, \"b\" "]] := by
    decide +kernel
  exact ⟨shown, text ▸ copies, (found.mpr free).trans cells⟩

/-- A service with a tab and a newline takes two lines, and fields that no cell holds. -/
theorem copied_row_falls_apart :
    (servedMenu "a\tb\nc").execute .clipboardOnly none .copy =
      (.nothing, some "PEN\t\nPC\ta\tb\nc\n") ∧
    (servedMenu "a\tb\nc").cells = [["PEN", ""], ["PC", "a\tb\nc"]] ∧
    rowsOf (servedMenu "a\tb\nc").selectionText = [["PEN", ""], ["PC", "a", "b"], ["c"]] := by
  -- One cell holds a tab and a newline, so that neither separates cells or rows only.
  decide +kernel

end DeviceBrowser.Menu

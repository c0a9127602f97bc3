import DeviceBrowser.Export
import DeviceBrowser.Proofs.Browser.Selection
import DeviceBrowser.Proofs.View.Paths

/-! What the browser lists of a display: every visible node once, in the order of the tree or
sorted, so that another sorting changes the order of what is exported, copied and acted on, and
nothing else. -/

namespace DeviceBrowser

variable {browser again : Browser} {published : Published}

namespace Menu

variable {menu other : Menu}

/-- Menus that differ in the order of their selections act on the same devices. -/
theorem selectedIds_perm (same : other = { menu with selection := other.selection })
    (selection : other.selection.Perm menu.selection) :
    other.selectedIds.Perm menu.selectedIds := by
  -- They name the devices of the same snapshot.
  rw [selectedIds, same]
  exact (selection.map _).filter _

/-- They copy the same rows in another order. -/
theorem selectionText_perm [Zone] (same : other = { menu with selection := other.selection })
    (selection : other.selection.Perm menu.selection) :
    ∃ lines others, menu.selectionText = String.join lines ∧
      other.selectionText = String.join others ∧ others.Perm lines := by
  -- The line of a node is made of the texts in the columns, which are the same.
  refine ⟨_, _, rfl, ?_, selection.map _⟩
  rw [selectionText, same]
  rfl

/-- The entries of a menu do not depend on the order of the selection. -/
theorem onSnapshot_perm [Zone] (snapshot : Snapshot) (node : Option Nat) {left right : List Nat}
    (perm : left.Perm right) (columns : List PropertyClass) (column : Option PropertyClass)
    (preferences : Preferences) (elevated : Bool) :
    onSnapshot snapshot node left columns column preferences elevated =
      { onSnapshot snapshot node right columns column preferences elevated with
        selection := left } := by
  -- They depend on how many nodes are selected.
  have length := perm.length_eq
  have isEmpty : left.isEmpty = right.isEmpty := by
    rw [Bool.eq_iff_iff, List.isEmpty_iff_length_eq_zero, List.isEmpty_iff_length_eq_zero, length]
  simp only [onSnapshot, length, isEmpty]

end Menu

namespace Browser

section AnyZone

variable {zone : Zone}

/-- A browser lists another one's rows in another order: what it displays and what is selected of it
are the same nodes as often, the exported tables have the same rows, and the menus differ in the
order of their selections only, so that they copy the same rows and act on the same devices. -/
structure Rearranges [Zone] (again browser : Browser) : Prop where
  displayOrder : again.displayOrder.Perm browser.displayOrder
  selection : again.selection.Perm browser.selection
  exported : ∃ titles rows others,
    browser.exported = (rows.length, Text.Csv.write (titles :: rows)) ∧
    again.exported = (others.length, Text.Csv.write (titles :: others)) ∧ others.Perm rows
  menus : ∀ node column, ∃ menu other, browser.menu? node column = some menu ∧
    again.menu? node column = some other ∧ other = { menu with selection := other.selection } ∧
    other.selection.Perm menu.selection ∧ other.selectedIds.Perm menu.selectedIds ∧
    ∃ lines others, menu.selectionText = String.join lines ∧
      other.selectionText = String.join others ∧ others.Perm lines

/-- What a browser lists of a display: just the visible nodes, each once. In a tree they are in the
order of the recursion down from the roots, which a walk finds that ends; in a flat listing they are
in the sorted order. The selection is what is selected of them. Another sorting, or none, lists the
same rows in another order. -/
structure ListsVisible [Zone] (browser : Browser) (published : Published) : Prop where
  mem_iff : ∀ number, number ∈ browser.displayOrder ↔
    number < published.snapshot.size ∧ published.isVisible number = true
  nodup : browser.displayOrder.Nodup
  tree : browser.listing.isFlat = false → ∃ order,
    published.snapshot.Walked published.snapshot.roots order ∧
    published.snapshot.PreOrder published.snapshot.roots order ∧
    browser.displayOrder = order.filter published.isVisible
  flat : browser.listing.isFlat = true → browser.displayOrder =
    (published.snapshot.sorted browser.listing.sorting).filter published.isVisible
  selection : browser.selection = browser.displayOrder.filter published.isSelected
  rearranged : ∀ sorting, (browser.sortBy sorting).Rearranges browser

/-- The record of a node in an exported table. -/
def record [Zone] (browser : Browser) (published : Published) (number : Nat) : List String :=
  browser.listing.columns.shown.map (published.snapshot.cellText number)

section Listing

variable (active : browser.stage.active = some published)

include active in
/-- The exported table has the titles of the columns and a record for each node displayed. -/
theorem exported_of_active :
    browser.exported = ((browser.displayOrder.map (browser.record published)).length,
      Text.Csv.write (browser.listing.columns.shown.map (·.title) ::
        browser.displayOrder.map (browser.record published))) := by
  -- The export looks up the snapshot on display and is written from its cells.
  simp only [exported, snapshot?_of_active active, List.length_map]
  rfl

include active in
/-- The selection is what is selected of what is displayed. -/
theorem selection_of_active :
    browser.selection = browser.displayOrder.filter published.isSelected := by
  -- Both start from the order of the nodes and leave out what is not visible.
  simp [selection, displayOrder, Listing.selection, active]

variable (built : published.snapshot.Built)
  (sorted : browser.listing.sorted = published.snapshot.sorted browser.listing.sorting)

include active built sorted in
/-- Every visible node is displayed once, in whatever order. -/
theorem displayOrder_perm : browser.displayOrder.Perm
    ((List.range published.snapshot.size).filter published.isVisible) := by
  -- The order has every node once, and what is not visible is left out of it.
  have visible : browser.isVisible = published.isVisible := by
    funext number
    simp [isVisible, active]
  rw [displayOrder_eq, visible]
  exact (order_perm (snapshot?_of_active active) built sorted).filter _

end Listing

/-- Browsers of one display whose orders are those of their sortings list the same rows. -/
theorem rearranges_of_active (active : browser.stage.active = some published)
    (built : published.snapshot.Built)
    (sorted : browser.listing.sorted = published.snapshot.sorted browser.listing.sorting)
    (sorting : Sorting) : (browser.sortBy sorting).Rearranges browser := by
  -- Sorting leaves the display, the columns and the preferences.
  have active' : (browser.sortBy sorting).stage.active = some published := active
  have sorted' : (browser.sortBy sorting).listing.sorted =
      published.snapshot.sorted (browser.sortBy sorting).listing.sorting := by
    simp [sortBy, Listing.sortBy, Listing.resort, snapshot?_of_active active]
  have displayed : (browser.sortBy sorting).displayOrder.Perm browser.displayOrder :=
    (displayOrder_perm active' built sorted').trans (displayOrder_perm active built sorted).symm
  have selected : (browser.sortBy sorting).selection.Perm browser.selection := by
    rw [selection_of_active active, selection_of_active active']
    exact displayed.filter _
  refine ⟨displayed, selected, ?_, ?_⟩
  · -- A node has the same record, wherever it stands.
    exact ⟨_, _, _, exported_of_active active, exported_of_active active', displayed.map _⟩
  · intro node column
    have menu : browser.menu? node column = some (Menu.onSnapshot published.snapshot node
        browser.selection browser.listing.columns.shown column browser.preferences
        browser.elevated) := by
      rw [menu?, snapshot?_of_active active, Option.map_some]
    have other : (browser.sortBy sorting).menu? node column = some (Menu.onSnapshot
        published.snapshot node (browser.sortBy sorting).selection browser.listing.columns.shown
        column browser.preferences browser.elevated) := by
      rw [menu?, snapshot?_of_active active', Option.map_some]
      rfl
    have same := Menu.onSnapshot_perm published.snapshot node selected
      browser.listing.columns.shown column browser.preferences browser.elevated
    exact ⟨_, _, menu, other, same, selected, Menu.selectedIds_perm same selected,
      Menu.selectionText_perm same selected⟩

/-- A browser that displays a built snapshot, and whose order is that of its sorting, lists just the
visible nodes. -/
theorem displayOrder_listsVisible (active : browser.stage.active = some published)
    (built : published.snapshot.Built)
    (sorted : browser.listing.sorted = published.snapshot.sorted browser.listing.sorting) :
    ListsVisible browser published := by
  -- What stands in the list is settled by counting, and in what order by the two ways of listing.
  have perm := displayOrder_perm active built sorted
  constructor
  · intro number
    rw [perm.mem_iff, List.mem_filter, List.mem_range]
  · exact perm.nodup_iff.mpr (List.nodup_range.filter _)
  · intro tree
    have listed := built.listed
    refine ⟨_, listed.walked_treeOrder, listed.preOrder_treeOrder, ?_⟩
    simp [displayOrder, active, Listing.displayOrder, tree]
  · intro flat
    simp [displayOrder, active, Listing.displayOrder, flat, sorted]
  · exact selection_of_active active
  · exact rearranges_of_active active built sorted

end AnyZone

/-- A browser that looks for a text which three of four devices hold, with the lowest selected. -/
def hubBrowser (sorting : Sorting) : Browser :=
  let started := start .standard .standard sorting false
  (((started.lookFor? "p").getD started).publish Listing.hubBuilt default).1.select 3 true

/-- It displays these devices in the order of its sorting, matched by its search. -/
theorem hubBrowser_display (sorting : Sorting) : ∃ published,
    (hubBrowser sorting).stage.active = some published ∧ published.snapshot.Built ∧
    (hubBrowser sorting).listing.sorted =
      published.snapshot.sorted (hubBrowser sorting).listing.sorting ∧
    Fresh (hubBrowser sorting).listing published := by
  -- The browser was led there by operations, so it is sound for what it displays.
  have built := Listing.built_hubBuilt
  have viewed : Viewed "p" (hubBrowser sorting) :=
    (((Viewed.start _ _ _ _).lookFor "p").publish built default).select 3 true
  have displayed : (hubBrowser sorting).snapshot? = some Listing.hubBuilt := by
    simp [hubBrowser]
  obtain ⟨published, active, same⟩ : ∃ published, (hubBrowser sorting).stage.active =
      some published ∧ published.snapshot = Listing.hubBuilt := Option.map_eq_some_iff.mp displayed
  have sorted := viewed.sound.sorted_eq displayed
  rw [← same] at built sorted
  exact ⟨published, active, built, sorted, viewed.sound.fresh published active⟩

/-- The device that hides between two others is left out, and what is below it is not. -/
theorem displayOrder_listsVisible_hub : ∃ published,
    (hubBrowser .standard).stage.active = some published ∧ published.snapshot.Built ∧
    (hubBrowser .standard).listing.sorted = published.snapshot.sorted .standard ∧
    (hubBrowser .standard).displayOrder = [1, 3, 2] ∧
    (hubBrowser ⟨.name, .descending⟩).displayOrder = [3, 1, 2] ∧
    ListsVisible (hubBrowser .standard) published := by
  obtain ⟨published, active, built, sorted, _⟩ := hubBrowser_display .standard
  -- Another sorting arranges the same devices in another way.
  exact ⟨published, active, built, sorted, by decide +kernel, by decide +kernel,
    displayOrder_listsVisible active built sorted⟩

end Browser

end DeviceBrowser

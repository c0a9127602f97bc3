import DeviceBrowser.Proofs.Browser.Coherence
import DeviceBrowser.Proofs.Publication.Run
import DeviceBrowser.Proofs.Snapshot.PreOrder

/-! What the browser lists as its selection: of the nodes on display those that are visible and
selected. Matching leaves which nodes are selected, and selecting leaves which are visible. -/

namespace DeviceBrowser

variable {zone : Zone}

namespace Browser

/-- The nodes on display in their order, whether visible or not. -/
def order (browser : Browser) : List Nat :=
  match browser.snapshot? with
  | some snapshot =>
    if browser.listing.isFlat then browser.listing.sorted else snapshot.treeOrder
  | none => []

variable {browser : Browser}

/-- The display shows the visible nodes in their order. -/
theorem displayOrder_eq (browser : Browser) :
    browser.displayOrder = browser.order.filter browser.isVisible := by
  -- With nothing on display both are empty; otherwise the same order is filtered in the same way.
  cases active : browser.stage.active with
  | none => simp [displayOrder, order, snapshot?, Stage.snapshot?, active]
  | some published =>
    have visible : browser.isVisible = published.isVisible := by
      funext number
      simp [isVisible, active]
    simp [displayOrder, order, snapshot?, Stage.snapshot?, active, Listing.displayOrder, visible]

/-- The selection holds the selected ones of the visible nodes in their order. -/
theorem selection_eq (browser : Browser) :
    browser.selection = (browser.order.filter browser.isVisible).filter browser.isSelected := by
  -- The selection is taken from what is displayed.
  rw [← displayOrder_eq]
  cases active : browser.stage.active with
  | none => simp [selection, displayOrder, active]
  | some published =>
    have selected : browser.isSelected = published.isSelected := by
      funext number
      simp [isSelected, active]
    simp [selection, displayOrder, Listing.selection, active, selected]

/-- A browser whose order is that of its sorting has every node of a built snapshot in it once. -/
theorem order_perm {snapshot : Snapshot} (displayed : browser.snapshot? = some snapshot)
    (built : snapshot.Built)
    (sorted : browser.listing.sorted = snapshot.sorted browser.listing.sorting) :
    browser.order.Perm (List.range snapshot.size) := by
  -- Sorting arranges all nodes, and the walk down the tree meets all.
  simp only [order, displayed]
  split
  · rename_i flat
    rw [sorted]
    exact snapshot.sorted_perm flat
  · exact built.treeOrder_perm

/-- A sound browser has every node on display in its order. -/
theorem Sound.mem_order {text : String} (sound : Sound text browser) {snapshot : Snapshot}
    (displayed : browser.snapshot? = some snapshot) {number : Nat}
    (within : number < snapshot.size) : number ∈ browser.order := by
  -- The order of a sound browser is a permutation of all nodes.
  have perm := order_perm displayed (sound.built snapshot displayed) (sound.sorted_eq displayed)
  exact perm.mem_iff.mpr (List.mem_range.mpr within)

/-- A sound browser has no node twice in its order. -/
theorem Sound.order_nodup {text : String} (sound : Sound text browser) : browser.order.Nodup := by
  -- A permutation of distinct numbers repeats none.
  cases displayed : browser.snapshot? with
  | none => simp [order, displayed]
  | some snapshot =>
    have perm := order_perm displayed (sound.built snapshot displayed) (sound.sorted_eq displayed)
    exact perm.nodup_iff.mpr List.nodup_range

/-- In a sound browser the snapshot, the search and the columns decide what is visible. -/
theorem Sound.isVisible_iff {text : String} (sound : Sound text browser) {snapshot : Snapshot}
    (displayed : browser.snapshot? = some snapshot) (number : Nat) :
    browser.isVisible number = true ↔ (marks browser.listing snapshot)[number]? = some true := by
  -- The states on display are fresh, so they show the marks.
  obtain ⟨published, active, rfl⟩ := Option.map_eq_some_iff.mp displayed
  rw [← (sound.fresh published active).isVisible_iff]
  simp [isVisible, active]

/-! ## What selecting and matching leave -/

/-- Selecting a node leaves the snapshot on display. -/
@[simp] theorem snapshot?_select (browser : Browser) (number : Nat) (selected : Bool) :
    (browser.select number selected).snapshot? = browser.snapshot? := by
  -- States are written, and the snapshot stands beside them.
  simp [snapshot?, Stage.snapshot?, select, Stage.update, Function.comp_def, Published.select]

/-- Emptying the selection leaves the snapshot on display. -/
@[simp] theorem snapshot?_clearSelection (browser : Browser) :
    browser.clearSelection.snapshot? = browser.snapshot? := by
  -- States are written, and the snapshot stands beside them.
  simp [snapshot?, Stage.snapshot?, clearSelection, Stage.update, Function.comp_def,
    Published.clearSelection]

/-- Selecting one node alone leaves the order of the nodes. -/
@[simp] theorem order_selectOnly (browser : Browser) (number : Nat) :
    (browser.selectOnly number).order = browser.order := by
  -- The order asks for the snapshot and the listing, both of which stay.
  simp only [order, selectOnly, snapshot?_select, snapshot?_clearSelection]
  rfl

/-- Selecting one node alone leaves what is visible. -/
@[simp] theorem isVisible_selectOnly (browser : Browser) (number : Nat) :
    (browser.selectOnly number).isVisible = browser.isVisible := by
  funext other
  cases active : browser.stage.active with
  | none => simp [isVisible, selectOnly, select, clearSelection, Stage.update, active]
  | some published =>
    -- Both writes leave the visible flag of every state.
    have states := (published.clearSelection.visible_select number true).trans
      published.visible_clearSelection
    simp only [isVisible, selectOnly, select, clearSelection, Stage.update, active,
      Option.map_some, Option.any_some]
    rw [Published.isVisible_eq, states, ← Published.isVisible_eq]

/-- Where one node of the display is selected alone, it is selected and no other is. -/
theorem isSelected_selectOnly {published : Published}
    (active : browser.stage.active = some published) {number : Nat}
    (within : number < published.states.size) (other : Nat) :
    (browser.selectOnly number).isSelected other = (other == number) := by
  -- The selection was emptied before, so that every other state says no.
  simp only [isSelected, selectOnly, select, clearSelection, Stage.update, active,
    Option.map_some, Option.any_some, Published.isSelected, Published.select,
    Published.clearSelection, Array.getElem?_modify, Array.getElem?_map]
  by_cases same : other = number
  · subst same
    simp [within]
  · rw [if_neg (Ne.symm same)]
    cases published.states[other]? <;> simp [same]

/-- Matching leaves which nodes are selected. -/
@[simp] theorem isSelected_refilter (browser : Browser) (number : Nat) :
    browser.refilter.isSelected number = browser.isSelected number := by
  -- Matching writes visible flags only.
  cases active : browser.stage.active with
  | none => simp [refilter, active]
  | some published => simp [refilter, active, isSelected, Published.isSelected_filter]

end Browser

end DeviceBrowser

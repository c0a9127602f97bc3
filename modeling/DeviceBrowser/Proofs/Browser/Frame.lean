import DeviceBrowser.Browser

/-! What the operations of the browser leave as it was: only a publication puts another snapshot on
display, and none of them touches the preferences. -/

namespace DeviceBrowser

namespace Published

/-- Whether a node is visible is kept in its state. -/
theorem isVisible_eq (published : Published) (number : Nat) :
    published.isVisible number = (published.states.map (·.visible))[number]?.getD false := by
  -- Where there is no state, nothing is visible.
  rw [isVisible, Array.getElem?_map]
  cases published.states[number]? <;> rfl

/-- Selecting a node changes nothing about what is visible. -/
@[simp] theorem visible_select (published : Published) (number : Nat) (selected : Bool) :
    (published.select number selected).states.map (·.visible) =
      published.states.map (·.visible) := by
  -- A node that is selected keeps the other half of its state.
  apply Array.ext
  · simp [select]
  · intro index within other
    simp only [select, Array.getElem_map, Array.getElem_modify]
    split <;> rfl

/-- Emptying the selection changes nothing about what is visible. -/
@[simp] theorem visible_clearSelection (published : Published) :
    published.clearSelection.states.map (·.visible) = published.states.map (·.visible) := by
  -- State by state only the selected flag is written.
  simp [clearSelection, Function.comp_def]

/-- Matching leaves which nodes are selected. -/
theorem isSelected_filter [Zone] (published : Published) (listing : Listing) (number : Nat) :
    (listing.filter published).2.isSelected number = published.isSelected number := by
  -- It writes only whether a node is visible into its state.
  simp only [Listing.filter, isSelected, Array.getElem?_mapIdx]
  cases published.states[number]? <;> rfl

end Published

namespace Browser

/-- The snapshot on display is that of the display. -/
theorem snapshot?_of_active {browser : Browser} {published : Published}
    (active : browser.stage.active = some published) :
    browser.snapshot? = some published.snapshot := by
  -- The snapshot is a part of what is active.
  simp [snapshot?, Stage.snapshot?, active]

/-- Matching anew leaves the snapshot on display. -/
@[simp] theorem snapshot?_refilter [Zone] (browser : Browser) :
    browser.refilter.snapshot? = browser.snapshot? := by
  -- Matching writes states; without a display there are none.
  rw [refilter]
  split
  · rename_i published active
    rw [snapshot?_of_active active]
    rfl
  · rfl

/-- Matching anew leaves the preferences. -/
@[simp] theorem preferences_refilter [Zone] (browser : Browser) :
    browser.refilter.preferences = browser.preferences := by
  -- Matching writes the listing and the states alone.
  rw [refilter]
  split <;> rfl

/-- A publication puts its snapshot on display. -/
@[simp] theorem snapshot?_publish [Zone] (browser : Browser) (next : Snapshot) (now : FileTime) :
    (browser.publish next now).1.snapshot? = some next := by
  -- Matching follows the publication, and on a dark stage as on any other the new snapshot comes
  -- on.
  rw [publish, snapshot?_refilter]
  simp only [snapshot?, Stage.snapshot?, Stage.publish]
  split <;> rfl

/-- A publication leaves the preferences. -/
@[simp] theorem preferences_publish [Zone] (browser : Browser) (next : Snapshot) (now : FileTime) :
    (browser.publish next now).1.preferences = browser.preferences := by
  -- They are read to color what arrives and handed on.
  simp [publish]

/-- A publication leaves the sorting, the search and the columns. -/
theorem listing_publish [Zone] (browser : Browser) (next : Snapshot) (now : FileTime) :
    (browser.publish next now).1.listing.sorting = browser.listing.sorting ∧
      (browser.publish next now).1.listing.search = browser.listing.search ∧
      (browser.publish next now).1.listing.columns = browser.listing.columns := by
  -- They are not touched by sorting and matching.
  simp only [publish, refilter]
  split <;> exact ⟨rfl, rfl, rfl⟩

end Browser

end DeviceBrowser

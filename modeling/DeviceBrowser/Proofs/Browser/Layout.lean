import DeviceBrowser.Proofs.Browser.Frame
import DeviceBrowser.Proofs.Settings.Preferences
import DeviceBrowser.Proofs.View.Stored
import DeviceBrowser.Settings.Store

/-! The part of a view that is stored: what each operation of the browser makes of it, and what the
settings under its names make of it. -/

namespace DeviceBrowser

/-- The part of a view that is stored. -/
structure Layout where
  preferences : Preferences
  columns : Columns
  sorting : Sorting
deriving DecidableEq

/-! ## The layout of a browser -/

namespace Browser

variable (browser : Browser)

/-- The layout that a browser has in effect. -/
def layout : Layout := ⟨browser.preferences, browser.listing.columns, browser.listing.sorting⟩

/-- Matching anew leaves the layout. -/
@[simp] theorem layout_refilter [Zone] : browser.refilter.layout = browser.layout := by
  -- Matching sets marks, which are no part of the layout.
  rw [refilter]
  split <;> rfl

/-- A publication leaves the layout. -/
@[simp] theorem layout_publish [Zone] (next : Snapshot) (now : FileTime) :
    (browser.publish next now).1.layout = browser.layout := by
  -- A publication sorts and matches anew, under the sorting and the columns there are.
  obtain ⟨sorting, _, columns⟩ := listing_publish browser next now
  simp only [layout, preferences_publish, sorting, columns]

/-- Time passing leaves the layout. -/
@[simp] theorem layout_tick (elapsed : Duration) :
    (browser.tick elapsed).2.layout = browser.layout := rfl

/-- Another sorting is all that sorting changes of the layout. -/
@[simp] theorem layout_sortBy [Zone] (sorting : Sorting) :
    (browser.sortBy sorting).layout = { browser.layout with sorting } := rfl

variable {browser} {next : Browser}

/-- Looking for a text leaves the layout. -/
theorem layout_lookFor? [Zone] {text : String} (found : browser.lookFor? text = some next) :
    next.layout = browser.layout := by
  -- Only the search of the listing is another.
  obtain ⟨listing, sought, rfl⟩ := Option.map_eq_some_iff.mp found
  rw [Listing.lookFor?] at sought
  split at sought
  · cases sought
  · cases sought
    rw [layout_refilter, layout, layout]

/-- The columns are all that showing or hiding one changes of the layout. -/
theorem layout_showColumn? [Zone] {cls : PropertyClass} {visible : Bool}
    (changed : browser.showColumn? cls visible = some next) :
    next.layout = { browser.layout with columns := next.listing.columns } ∧
      browser.listing.columns.change? cls visible = some next.listing.columns := by
  obtain ⟨columns, found, rfl⟩ := Option.map_eq_some_iff.mp changed
  -- The columns are set first, and matching anew leaves them.
  have after := layout_refilter { browser with listing := { browser.listing with columns } }
  generalize refilter { browser with listing := { browser.listing with columns } } = next at after ⊢
  have shown : next.listing.columns = columns := congrArg Layout.columns after
  rw [shown]
  exact ⟨after, found⟩

end Browser

/-! ## The layout of a store -/

namespace SettingsStore

variable (store : SettingsStore)

/-- The layout that a store holds. -/
def layout : Layout := ⟨store.preferences, store.columns, store.sorting⟩

/-- Writing settings, by whatever attempt, leaves them. -/
@[simp] theorem settings_flushBy (attempt : Attempt) :
    (store.flushBy attempt).2.settings = store.settings := by
  -- Neither a broken attempt nor one that succeeds touches what is in memory.
  rw [flushBy, flushWith.eq_def]
  split
  · rfl
  · split
    · cases attempt <;> rfl
    · rfl

/-- Only the settings count for the layout. -/
theorem layout_congr {left right : SettingsStore} (same : left.settings = right.settings) :
    left.layout = right.layout := by
  -- Each part is read from the settings.
  simp only [layout, preferences, columns, sorting, same]

/-- Writing a store leaves its layout. -/
@[simp] theorem layout_flushed : store.flushed.layout = store.layout :=
  -- Writing changes the place and the changed flag only.
  layout_congr (store.settings_flushBy store.attempt)

/-- Whatever is stored, the columns it is read as are sound. -/
theorem sound_columns : store.columns.Sound := by
  -- Stored columns are mended as they are read, and the standard ones need no mending.
  rw [columns]
  split
  · exact Columns.sound_ofSetting _
  · exact Columns.sound_standard

/-- A setting under another name leaves the columns. -/
theorem columns_put {name : String} (ne : name ≠ Settings.columnsName) (setting : Setting) :
    (store.put name setting).columns = store.columns := by
  -- Reading one name does not see what is stored under another.
  rw [columns, put, Settings.text?_insert_ne _ ne.symm, columns]

/-- A setting under another name leaves the sorting. -/
theorem sorting_put {name : String} (ne : name ≠ Settings.sortName) (setting : Setting) :
    (store.put name setting).sorting = store.sorting := by
  -- Reading one name does not see what is stored under another.
  rw [sorting, put, Settings.text?_insert_ne _ ne.symm, sorting]

/-- No switch is stored under the name of the columns or of the sorting. -/
theorem toggleName_ne (toggle : Toggle) : Settings.toggleName toggle ≠ Settings.columnsName ∧
    Settings.toggleName toggle ≠ Settings.sortName := by
  -- The names of the switches are compared one by one.
  cases toggle <;> decide

/-- A stored switch is all that changes of the layout. -/
theorem layout_put_toggle (toggle : Toggle) (on : Bool) :
    (store.put (Settings.toggleName toggle) (Settings.flagSetting on)).layout =
      { store.layout with preferences := store.preferences.set toggle on } := by
  -- The columns and the sorting are read under other names than that of the switch.
  obtain ⟨noColumns, noSorting⟩ := toggleName_ne toggle
  have preferences := store.settings.preferences_insert_toggle toggle on
  simp only [layout, columns_put store noColumns, sorting_put store noSorting]
  exact congrArg (Layout.mk · _ _) preferences

/-- Stored columns, if they are sound, are all that changes of the layout. -/
theorem layout_put_columns {columns : Columns} (sound : columns.Sound) :
    (store.put Settings.columnsName (.text columns.setting)).layout =
      { store.layout with columns } := by
  -- No preference is read under the name of the columns, and the columns read back.
  have preferences := store.settings.preferences_insert
    (fun toggle => (toggleName_ne toggle).1) (by decide) (.text columns.setting)
  have read : (store.put Settings.columnsName (.text columns.setting)).columns = columns := by
    rw [SettingsStore.columns, put, Settings.text?_insert_text]
    exact sound.ofSetting_setting
  simp only [layout, read, sorting_put store (show Settings.columnsName ≠ _ by decide)]
  exact congrArg (Layout.mk · _ _) preferences

/-- A stored sorting is all that changes of the layout. -/
theorem layout_put_sorting (sorting : Sorting) :
    (store.put Settings.sortName (.text sorting.setting)).layout =
      { store.layout with sorting } := by
  -- The sorting reads back from its setting, and neither switches nor columns are stored under that
  -- name.
  have preferences := store.settings.preferences_insert
    (fun toggle => (toggleName_ne toggle).2) (by decide) (.text sorting.setting)
  have read : (store.put Settings.sortName (.text sorting.setting)).sorting = sorting := by
    rw [SettingsStore.sorting, put, Settings.text?_insert_text]
    exact sorting.ofSetting_setting
  simp only [layout, read, columns_put store (show Settings.sortName ≠ _ by decide)]
  exact congrArg (Layout.mk · _ _) preferences

end SettingsStore

end DeviceBrowser

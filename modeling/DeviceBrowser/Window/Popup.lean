import DeviceBrowser.Window.Sheet

/-! Popup menus: the rows of the menus of the toolbar and of the menu of a device, and how the
pointer opens and closes a submenu. -/

namespace DeviceBrowser

variable [Zone]

/-- The submenu of a device's menu. An open one is painted before its menu or after it: whichever of
the two was opened or pressed last comes last. -/
inductive Submenu where
  | closed
  | below
  | above
deriving DecidableEq

/-- The menu of a device, which hangs at a cell of the table. Its upper left corner lies where the
pointer was. -/
structure DevicePopup where
  row : Nat
  column : Nat
  corner : Position
  submenu : Submenu
deriving DecidableEq

namespace DevicePopup

/-- The menu of a device when it opens: its corner comes to lie at the pointer. -/
def ofCell (row column : Nat) (pointer : Position) : DevicePopup := ⟨row, column, pointer, .closed⟩

/-- The pointer comes upon a part: a submenu opens at its button, and at a grayed one it closes. -/
def hover (popup : DevicePopup) : Part → DevicePopup
  | .submenu enabled =>
    if !enabled then { popup with submenu := .closed }
    else if popup.submenu = .closed then { popup with submenu := .above }
    else popup
  | _ => popup

/-- A button of the mouse is pressed in the menu or in its submenu, which comes to the top. -/
def press (popup : DevicePopup) (inSubmenu : Bool) : DevicePopup :=
  match popup.submenu with
  | .closed => popup
  | .below | .above => { popup with submenu := if inSubmenu then .above else .below }

/-- Whether the cell at which the menu hangs is in the table. -/
def isHeld (popup : DevicePopup) (screen : Screen) : Bool :=
  screen.browser.snapshot?.isSome && popup.row < screen.rows.length &&
    popup.column < screen.browser.listing.columns.shown.length

/-- The menu that is shown: the one that was opened, or else one for what is in the cell now. -/
def menu? (popup : DevicePopup) (screen : Screen) : Option Menu :=
  screen.menu.or do
    let row ← screen.rows[popup.row]?
    screen.menuFor row.node (screen.browser.listing.columns.shown[popup.column]?)

end DevicePopup

namespace Sheet

/-- The rows of the menu of the view. -/
def viewRows : List (Option SheetItem) :=
  (Toggle.all.map fun toggle => some ⟨.check, toggle.label, .toggleBox toggle, true⟩) ++
    [none, some ⟨.check, "Details panel", .detailsBox, true⟩]

/-- The rows of the menu of columns. The names cannot be hidden. -/
def columnRows : List (Option SheetItem) :=
  PropertyClass.all.map fun cls => some ⟨.check, cls.title, .columnBox cls, cls != .name⟩

/-- The rows of the menu of a button of the toolbar. -/
def toolRows : Tool → List (Option SheetItem)
  | .viewMenu => viewRows
  | .columnsMenu => columnRows
  | _ => []

/-- An item of a device's menu or of its submenu. -/
def itemRow (item : MenuItem) (inSubmenu : Bool) : Option SheetItem :=
  some ⟨if item.checked.isSome then .check else .button, item.label,
    .menuItem item inSubmenu, item.enabled⟩

/-- The row of an entry of a device's menu. -/
def entryRow : MenuEntry → Option SheetItem
  | .item item => itemRow item false
  | .submenu label enabled _ => some ⟨.opener, label, .submenu enabled, enabled⟩
  | .separator => none

/-- The rows of a device's menu. -/
def menuRows (menu : Menu) : List (Option SheetItem) := menu.entries.map entryRow

/-- The rows of the submenu of an entry. -/
def submenuRows : MenuEntry → List (Option SheetItem)
  | .submenu _ _ items => items.map (itemRow · true)
  | _ => []

/-- The texts of a device's menu with its submenu. -/
def paintedMenu (menu : Menu) (submenu : Submenu) : List Painted :=
  let items := painted (menuRows menu)
  let inner := painted (menu.entries.flatMap submenuRows)
  match submenu with
  | .closed => items
  | .below => inner ++ items
  | .above => items ++ inner

/-- The sheet of a device's menu. -/
def ofMenu (menu : Menu) (corner : Position) : Sheet := ofRows corner (menuRows menu)

/-- The sheet of a submenu, which lies beside its button. -/
def ofSubmenu (menu : Menu) (sheet : Sheet) : Option Sheet := do
  let (_, button) ← sheet.items.find? fun item => item.1.kind == .opener
  let corner := ⟨sheet.box.right + points 2, button.top - points margin⟩
  return ofRows corner (menu.entries.flatMap submenuRows)

end Sheet

end DeviceBrowser

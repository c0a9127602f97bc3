import DeviceBrowser.Text.Caret
import DeviceBrowser.Window.Popup

/-! The state of the window: the screen with its popup menus, and all that is painted of it. -/

namespace DeviceBrowser

open Text

variable [Zone]

/-- A press of a mouse button: the secondary one or the primary one, with the command key or
without, once or twice. -/
structure Press where
  isSecondary : Bool
  isExtending : Bool
  isDouble : Bool

/-- The state of the window. A menu of the toolbar hangs at a place among the buttons after the
search field; the menu of a device is kept while its cell is out of the table. The search field has
a selection while it has the focus. -/
structure Window where
  screen : Screen
  toolPlace : Option Nat
  devicePopup : Option DevicePopup
  searchSelection : Option Selection
  exported : Option String
  scale : Nat

namespace Window

/-- The scale of the window in percent when it opens. -/
def firstScale : Nat := 100

/-- The file to which the toolbar exports. -/
def exportPath : String := "devices.csv"

/-- The button of the toolbar whose menu is shown. Nothing is shown where another button took the
place. -/
def shownTool? (window : Window) : Option Tool :=
  (window.toolPlace.bind fun place => window.screen.searchTools[place]?).filter (·.opensMenu)

/-- The menu of a device that is shown. -/
def shownPopup? (window : Window) : Option DevicePopup :=
  window.devicePopup.filter (·.isHeld window.screen)

/-- Gives the rows their icons, and forgets what the menu of a device held once it is not shown. -/
def settle (window : Window) : Window :=
  let screen := match window.screen.browser.snapshot? with
    | some _ => window.screen.iconize.2
    | none => window.screen
  { window with screen := if window.shownPopup?.isSome then screen else screen.closeMenu }

/-- A window over a screen. -/
def ofScreen (screen : Screen) : Window :=
  settle ⟨screen, none, none, none, none, firstScale⟩

/-- The popup menus: that of the toolbar and then that of a device. -/
def popupPainted (window : Window) : List Painted :=
  let toolMenu := (window.shownTool?.map fun tool => Sheet.painted (Sheet.toolRows tool)).getD []
  let deviceMenu := do
    let popup ← window.shownPopup?
    let menu ← popup.menu? window.screen
    return Sheet.paintedMenu menu popup.submenu
  toolMenu ++ deviceMenu.getD []

/-- All that the window shows, in the order in which it is painted. -/
def painted (window : Window) : List Painted :=
  let screen := window.screen
  Painted.visible
    (screen.toolbar ++ screen.statusBar ++ (if screen.showsDetails then screen.details else []) ++
      screen.table screen.iconize.1 ++ screen.about ++ window.popupPainted)

/-- The texts of the window. -/
def texts (window : Window) : List String := Painted.texts window.painted

/-- The window with its screen changed. -/
def withScreen (window : Window) (change : Screen → Screen) : Window :=
  { window with screen := change window.screen }

end Window

end DeviceBrowser

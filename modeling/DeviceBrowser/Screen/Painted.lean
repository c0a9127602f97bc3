import DeviceBrowser.Screen

/-! What the screen shows: its texts in the order in which they are painted, and the part of the
screen that each of them belongs to. -/

namespace DeviceBrowser

open Text

variable [Zone]

/-- The buttons of the toolbar. -/
inductive Tool where
  | refresh
  | clearSearch
  | viewMenu
  | columnsMenu
  | exportTable
  | about
  | theme
deriving DecidableEq, Inhabited

/-- Whether a button of the toolbar opens a menu. -/
def Tool.opensMenu : Tool → Bool
  | viewMenu | columnsMenu => true
  | _ => false

/-- The part of the screen that a text belongs to. A label is a part where nothing is done. The
search field has its text and the space beside that. Rows and columns are counted in the table. An
item of a menu may stand in the submenu. The window that tells about the program has a button that
closes it. -/
inductive Part where
  | label
  | tool (tool : Tool)
  | searchField
  | searchSpace
  | header (cls : PropertyClass)
  | arrow (row column : Nat)
  | icon (row column : Nat)
  | cell (row column : Nat)
  | toggleBox (toggle : Toggle)
  | detailsBox
  | columnBox (cls : PropertyClass)
  | menuItem (item : MenuItem) (inSubmenu : Bool)
  | submenu (enabled : Bool)
  | closeAbout
deriving DecidableEq

/-- A text on the screen and the part it belongs to. -/
structure Painted where
  text : String
  part : Part

namespace Painted

/-- A text of a label. -/
def plain (text : String) : Painted := ⟨text, .label⟩

/-- The texts that are not empty: nothing is painted of an empty one. -/
def visible (painted : List Painted) : List Painted :=
  painted.filter fun piece => !piece.text.isEmpty

/-- The texts that are painted. -/
def texts (painted : List Painted) : List String := (visible painted).map (·.text)

end Painted

namespace Screen

/-- The text on a button of the toolbar. -/
def toolText (screen : Screen) : Tool → String
  | .refresh => "🔄 Refresh"
  | .clearSearch => "✖"
  | .viewMenu => "View"
  | .columnsMenu => "Columns"
  | .exportTable => "📤 Export"
  | .about => "ℹ"
  | .theme => if screen.dark then "☀" else "🌙"

/-- A button of the toolbar. -/
def toolPainted (screen : Screen) (tool : Tool) : Painted := ⟨screen.toolText tool, .tool tool⟩

/-- The buttons after the search field, from left to right. The one that clears the search comes
first while there is a text to clear. -/
def searchTools (screen : Screen) : List Tool :=
  (if screen.searchText.isEmpty then [] else [.clearSearch]) ++ [.viewMenu, .columnsMenu]

/-- The search field, which shows a hint while it is empty. -/
def searchField (screen : Screen) : Painted :=
  ⟨if screen.searchText.isEmpty then "🔎 Search devices" else screen.searchText, .searchField⟩

/-- The toolbar. -/
def toolbar (screen : Screen) : List Painted :=
  let tools : List Tool := screen.searchTools ++ [.exportTable, .about, .theme]
  [.plain "🔌 DevSleuth", screen.toolPainted .refresh, screen.searchField] ++
    tools.map screen.toolPainted ++
    [.plain (if screen.browser.elevated then "🛡 Admin" else "⚠ Standard user")]

/-- The counts of the status bar: all devices, the rows if there are fewer or more of them, and the
selected devices. -/
def counts (screen : Screen) (snapshot : Snapshot) : List String :=
  let selected := screen.browser.selection.length
  [decimal snapshot.size ++ " devices"] ++
    (if screen.rows.length = snapshot.size then [] else [decimal screen.rows.length ++ " shown"]) ++
    (if selected = 0 then [] else [decimal selected ++ " selected"])

/-- How many devices had just arrived at the last publication, if any had. -/
def arrivals (screen : Screen) : List String :=
  match screen.lastReport with
  | some report => if report.arrived = 0 then [] else [decimal report.arrived ++ " new"]
  | none => []

/-- The status bar. -/
def statusBar (screen : Screen) : List Painted :=
  let state := match screen.browser.snapshot? with
    | some snapshot => screen.counts snapshot
    | none => if screen.isRefreshing then [] else ["Ready"]
  ((if screen.isRefreshing then ["Refreshing..."] else []) ++ state ++ screen.arrivals ++
    screen.notice.toList).map .plain

/-- The text of a property in the details: a list has a line for each entry. -/
def detailText (property : Property) : String :=
  match property.entries with
  | [] => property.text
  | entries => join "\n" entries

/-- A title and a text for each property of a device that has a value. -/
def properties (device : Device) : List String :=
  PropertyClass.all.flatMap fun cls =>
    let property := device.property cls
    if property.isValid then [cls.title, detailText property] else []

/-- The details of the focused device. -/
def details (screen : Screen) : List Painted :=
  let texts := match screen.focusedNode, screen.focusedDevice with
    | some node, some device =>
      [device.name, device.id] ++ (if device.isInterface then ["Device interface"] else []) ++
        (if (screen.browser.stage.highlight? node).isSome then ["● Recently arrived"] else []) ++
        properties device
    | _, _ => ["Select a device to see details"]
  texts.map .plain

/-- The header of a column, with a mark on the one that orders the list. -/
def headerText (sorting : Sorting) (cls : PropertyClass) : String :=
  cls.title ++
    if sorting.column = cls then
      match sorting.direction with
      | .unsorted => ""
      | .ascending => " ▲"
      | .descending => " ▼"
    else ""

/-- The signs of icons; those with higher numbers use them again. -/
def glyphs : List String := ["⚙", "🔌", "🖥", "🖱", "🔊", "💾", "📡", "🔋"]

/-- The sign of an icon. -/
def glyph (icon : UInt32) : String := glyphs[icon.toNat % glyphs.length]?.getD ""

/-- The cells of a row. The name comes after an arrow, if there is something to expand, and the sign
of the icon. -/
def rowCells (screen : Screen) (row : Row) (position : Nat) (icon : UInt32) : List Painted :=
  screen.browser.listing.columns.shown.zipIdx.flatMap fun (cls, column) =>
    let lead :=
      if cls = .name then
        (if row.hasChildren then
          [⟨if row.isExpanded then "▼" else "▶", .arrow position column⟩] else []) ++
          [⟨glyph icon, .icon position column⟩]
      else []
    lead ++ [⟨screen.browser.cellText row.node cls, .cell position column⟩]

/-- The table: the headers and the rows. Without a snapshot one text stands for it. -/
def table (screen : Screen) (icons : List UInt32) : List Painted :=
  match screen.browser.snapshot? with
  | some _ =>
    let listing := screen.browser.listing
    (listing.columns.shown.map fun cls => ⟨headerText listing.sorting cls, .header cls⟩) ++
      (screen.rows.zip icons).zipIdx.flatMap fun ((row, icon), position) =>
        screen.rowCells row position icon
  | none =>
    [.plain (if screen.isRefreshing then "Enumerating devices..."
      else "No devices. Press Refresh to enumerate.")]

/-- The icons of the rows, given out from top to bottom. -/
def iconize (screen : Screen) : List UInt32 × Screen :=
  let (icons, browser) := screen.browser.iconsOf (screen.rows.map (·.node))
  (icons, screen.withBrowser fun _ => browser)

/-- Paints the table on its own: the rows get their icons, and as no menu is painted with it, an
open one closes. -/
def paintTable (screen : Screen) : List Painted × Screen :=
  let (icons, screen) := screen.iconize
  (screen.table icons, screen.closeMenu)

/-- The window that tells about the program: what it holds and then its title. -/
def about (screen : Screen) : List Painted :=
  if screen.showsAbout then
    ["🔌 DevSleuth", "v0.1.0",
      "A live hardware device browser.\n" ++
        "Sortable, searchable device tree with\narrival highlighting.",
      "github.com/Swatto86/DevSleuth", "MIT License - Built with Rust & egui",
      "About DevSleuth"].map .plain
  else []

end Screen

end DeviceBrowser

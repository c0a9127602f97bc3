import DeviceBrowser.ClassIcons
import DeviceBrowser.Coloring
import DeviceBrowser.Menu
import DeviceBrowser.View.Listing

/-! The browser: the snapshot on display, its listing, icons and colors under the preferences, and
the menu over it. -/

namespace DeviceBrowser

variable [Zone]

/-- The state of the browser. -/
structure Browser where
  stage : Stage
  listing : Listing
  icons : ClassIcons
  preferences : Preferences
  elevated : Bool

namespace Browser

/-- A browser before anything is on display. -/
def start (preferences : Preferences) (columns : Columns) (sorting : Sorting) (elevated : Bool) :
    Browser :=
  ⟨.dark, .start columns sorting, .none, preferences, elevated⟩

/-- The snapshot on display. -/
def snapshot? (browser : Browser) : Option Snapshot := browser.stage.snapshot?

/-- Matches the nodes on display anew. -/
def refilter (browser : Browser) : Browser :=
  match browser.stage.active with
  | some published =>
    let (listing, published) := browser.listing.filter published
    { browser with listing, stage := { browser.stage with active := some published } }
  | none => browser

/-- Puts a snapshot on display, sorted and matched. -/
def publish (browser : Browser) (next : Snapshot) (now : FileTime) : Browser × PublishReport :=
  -- The order is renewed before matching, which leaves it.
  let (stage, report) := browser.stage.publish next browser.preferences now
  (refilter { browser with stage, listing := browser.listing.resort (some next) }, report)

/-- Lets time pass for the highlights. -/
def tick (browser : Browser) (elapsed : Duration) : List Nat × Browser :=
  let (expired, stage) := browser.stage.tick elapsed
  (expired, { browser with stage })

/-- Looks for another text; nothing comes of the text that is looked for already. -/
def lookFor? (browser : Browser) (text : String) : Option Browser :=
  (browser.listing.lookFor? text).map fun listing => refilter { browser with listing }

/-- Shows or hides a column; nothing comes of a request that changes nothing. -/
def showColumn? (browser : Browser) (cls : PropertyClass) (visible : Bool) : Option Browser :=
  (browser.listing.columns.change? cls visible).map fun columns =>
    refilter { browser with listing := { browser.listing with columns } }

/-- Lists by another sorting. -/
def sortBy (browser : Browser) (sorting : Sorting) : Browser :=
  { browser with listing := browser.listing.sortBy sorting browser.snapshot? }

/-- The device of a node on display. -/
def device? (browser : Browser) (number : Nat) : Option Device :=
  browser.snapshot?.bind (·.device? number)

/-- The nodes on display. -/
def nodes (browser : Browser) : List Nat :=
  match browser.snapshot? with
  | some snapshot => List.range snapshot.size
  | none => []

/-- Whether a node on display passes the search. -/
def isVisible (browser : Browser) (number : Nat) : Bool :=
  browser.stage.active.any (·.isVisible number)

/-- Whether a node on display has a row. -/
def isShown (browser : Browser) (number : Nat) : Bool :=
  browser.stage.active.any fun published => browser.listing.isShown published number

/-- Whether a node on display is selected. -/
def isSelected (browser : Browser) (number : Nat) : Bool :=
  browser.stage.active.any (·.isSelected number)

/-- Selects a node on display or takes it out of the selection. -/
def select (browser : Browser) (number : Nat) (selected : Bool) : Browser :=
  { browser with stage := browser.stage.update (·.select number selected) }

/-- Empties the selection. -/
def clearSelection (browser : Browser) : Browser :=
  { browser with stage := browser.stage.update (·.clearSelection) }

/-- Selects one node alone. -/
def selectOnly (browser : Browser) (number : Nat) : Browser :=
  browser.clearSelection.select number true

/-- The visible nodes from top to bottom. -/
def displayOrder (browser : Browser) : List Nat :=
  match browser.stage.active with
  | some published => browser.listing.displayOrder published
  | none => []

/-- The visible nodes that are selected, from top to bottom. -/
def selection (browser : Browser) : List Nat :=
  match browser.stage.active with
  | some published => browser.listing.selection published
  | none => []

/-- The names of the selected devices. -/
def selectedNames (browser : Browser) : List String :=
  browser.selection.filterMap fun number => (browser.device? number).map (·.name)

/-- The nodes below a node on display, or the first ones. -/
def children (browser : Browser) (parent : Option Nat) : List Nat :=
  match browser.snapshot? with
  | some snapshot => browser.listing.children snapshot parent
  | none => []

/-- Whether a node on display has nothing below it; in a flat listing none has. -/
def isLeaf (browser : Browser) (number : Nat) : Bool :=
  browser.listing.isFlat ||
    match browser.snapshot? with
    | some snapshot => (snapshot.children (some number)).isEmpty
    | none => true

/-- The text of a node on display in a column. -/
def cellText (browser : Browser) (number : Nat) (cls : PropertyClass) : String :=
  match browser.device? number with
  | some device => device.cellText cls
  | none => ""

/-- The color of a node's row. -/
def color? (browser : Browser) (number : Nat) : Option Color :=
  (browser.device? number).bind fun device =>
    device.color ((browser.stage.highlight? number).map (·.color)) browser.preferences

/-- The icon of a node on display. -/
def icon (browser : Browser) (number : Nat) : UInt32 × Browser :=
  match browser.device? number with
  | some device =>
    let (icon, icons) := browser.icons.iconFor device
    (icon, { browser with icons })
  | none => (ClassIcons.generic, browser)

/-- The icons of several nodes, given out in turn. -/
def iconsOf (browser : Browser) : List Nat → List UInt32 × Browser
  | [] => ([], browser)
  | number :: rest =>
    let (icon, browser) := browser.icon number
    let (icons, browser) := iconsOf browser rest
    (icon :: icons, browser)

/-- Forgets which icons were given out. -/
def clearIcons (browser : Browser) : Browser := { browser with icons := .none }

/-- The context menu for a node or for none, and for the column clicked. -/
def menu? (browser : Browser) (node : Option Nat) (column : Option PropertyClass) : Option Menu :=
  browser.snapshot?.map fun snapshot =>
    Menu.onSnapshot snapshot node browser.selection browser.listing.columns.shown column
      browser.preferences browser.elevated

end Browser

end DeviceBrowser

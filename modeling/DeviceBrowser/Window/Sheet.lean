import DeviceBrowser.Screen.Painted
import DeviceBrowser.Text.Glyph
import DeviceBrowser.Window.Box

/-! Sheets: the popup menus as rows under one another, what is painted of the rows, and which of
them is met at a position. -/

namespace DeviceBrowser

open Text

/-- The kinds of items: with a box for a check mark, without one, and with a submenu. -/
inductive ItemKind where
  | check
  | button
  | opener
deriving DecidableEq

/-- An item on a sheet. A grayed one is not enabled. -/
structure SheetItem where
  kind : ItemKind
  text : String
  part : Part
  enabled : Bool

/-- A popup menu that lies in the window: its box, and those of its items. -/
structure Sheet where
  box : Box
  items : List (SheetItem × Box)

namespace SheetItem

/-- The sign on the button of a submenu. -/
def openerSign : String := "⏵"

/-- The texts of an item. The button of a submenu ends in a sign. -/
def painted (item : SheetItem) : List Painted :=
  match item.kind with
  | .opener => [⟨item.text, item.part⟩, ⟨openerSign, item.part⟩]
  | .check | .button => [⟨item.text, item.part⟩]

/-- The points before the text of an item: a box comes there, or the edge of a button. -/
def lead (item : SheetItem) : Int :=
  match item.kind with
  | .check => 18
  | .button | .opener => 2

/-- The points behind the text of an item: a sign comes there, and the edge of a button. -/
def trail (item : SheetItem) : Int :=
  match item.kind with
  | .check => 0
  | .button => 2
  | .opener => lineWidth textSize openerSign.toList + 2

/-- The points that an item needs from side to side. -/
def width (item : SheetItem) : Int :=
  item.lead + lineWidth textSize item.text.toList + item.trail

end SheetItem

namespace Sheet

/-- The points between the edge of a sheet and its items. -/
def margin : Int := 7

/-- The points between two rows. -/
def gap : Int := 3

/-- The height of a row in points: none stands for a rule between items. -/
def rowHeight : Option SheetItem → Int
  | some _ => 18
  | none => 6

/-- The points that rows need under one another, a gap after each of them. -/
def rowsHeight (rows : List (Option SheetItem)) : Int :=
  rows.foldr (fun row height => rowHeight row + gap + height) 0

/-- The points that the widest row needs. -/
def rowsWidth (rows : List (Option SheetItem)) : Int :=
  rows.foldr (fun row width => max ((row.map SheetItem.width).getD 0) width) 0

/-- The boxes of the items of rows from a height downwards. -/
def stack (left right : Int) : Int → List (Option SheetItem) → List (SheetItem × Box)
  | _, [] => []
  | top, row :: rest =>
    let bottom := top + points (rowHeight row)
    let below := stack left right (bottom + points gap) rest
    match row with
    | some item => (item, ⟨left, top, right, bottom⟩) :: below
    | none => below

/-- The sheet of some rows whose upper left corner lies at a position. -/
def ofRows (corner : Position) (rows : List (Option SheetItem)) : Sheet :=
  let left := corner.x + points margin
  let right := left + points (rowsWidth rows)
  let bottom := corner.y + points (2 * margin + rowsHeight rows - gap)
  ⟨⟨corner.x, corner.y, right + points margin, bottom⟩,
    stack left right (corner.y + points margin) rows⟩

/-- The texts of some rows. -/
def painted (rows : List (Option SheetItem)) : List Painted :=
  rows.flatMap fun row => (row.map SheetItem.painted).getD []

/-- The points from which an item is still met. -/
def reach : Int := 5

/-- The enabled item that is met at a position. -/
def met? (sheet : Sheet) (position : Position) : Option (SheetItem × Box) :=
  Box.within? position (points reach) (sheet.items.filter (·.1.enabled))

/-- The part that is met at a position on the sheet. What lies beneath is met near the edge, where
no item is. -/
def partAt (sheet : Sheet) (position : Position) (beneath : Part) : Part :=
  let under := sheet.items.find? fun item => item.2.contains position
  if under.isSome || (sheet.box.shrink (points reach)).contains position then
    (((sheet.met? position).or under).map (·.1.part)).getD .label
  else beneath

/-- The item of a part and its box. -/
def item? (sheet : Sheet) (part : Part) : Option (SheetItem × Box) :=
  sheet.items.find? fun item => item.1.part == part

end Sheet

end DeviceBrowser

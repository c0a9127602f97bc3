import DeviceBrowser.Window.Toolbar

/-! The layout of the table and of the menus: where headers, cells and items lie, at which position
a text is clicked, and which part of the table lies at a position. -/

namespace DeviceBrowser

open Text

variable [Zone]

/-- The line of a text: where its letters begin, the height of its middle, and where the text is cut
off if it is too long. -/
structure TextLine where
  left : Int
  middle : Int
  cut : Option Int

namespace TextLine

/-- The points from the middle of a line down to the base line of its letters. -/
def baseDrop : Int := 4

/-- The position at which a text is clicked: the middle of its ink, or beside it. Of a text that is
cut off only the start is seen, and of blanks nothing. -/
def position? (space : TextLine) (text : String) (beside : Bool) : Option Position := do
  let ink ← lineInk textSize text.toList
  let left := space.left + points ink.left
  let inkRight := space.left + points ink.right
  let right := (space.cut.map (min inkRight)).getD inkRight
  return {
    x := if beside then right + points besideGap else (left + right) / 2
    y := space.middle + points baseDrop - points (ink.bottom + ink.top) / 2 }

end TextLine

namespace Screen

/-- The left edge of a column. -/
def columnLeft (screen : Screen) (column : Nat) : Int :=
  let before := screen.browser.listing.columns.shown.take column
  points (before.foldr (fun cls left => cls.facts.width + spacing + left) edge)

/-- The right edge of a column. -/
def columnRight (screen : Screen) (column : Nat) (cls : PropertyClass) : Int :=
  screen.columnLeft column + points cls.facts.width

/-- The height of the middle of the headers. -/
def headerMiddle : Int := points 62

/-- The height of a row of the table, with the space between two rows. -/
def rowHeight : Int := points 25

/-- The height of the middle of a row of the table. -/
def rowMiddle (row : Nat) : Int := points 87 + rowHeight * row

/-- The indent of a row's arrow, which grows with its depth. -/
def arrowIndent (row : Row) : Int := points (16 * row.depth.toNat)

/-- The length of an arrow. -/
def arrowLength : Int := 306

/-- The length of the sign of an icon. -/
def iconLength : Int := 408

/-- The indent of the sign of a row's icon, after the arrow or the space for one. -/
def iconIndent (row : Row) : Int :=
  arrowIndent row + if row.hasChildren then arrowLength + points spacing else points 12

/-- The indent of a text in a cell: the name comes after the sign of the icon. -/
def cellIndent (row : Row) (cls : PropertyClass) : Int :=
  if cls = .name then iconIndent row + iconLength + points spacing else 0

/-- The space of a text in a cell of the table, which is cut off at the right edge of the column. -/
def cellLine? (screen : Screen) (row column : Nat) (indent : Row → PropertyClass → Int) :
    Option TextLine := do
  let found ← screen.rows[row]?
  let cls ← screen.browser.listing.columns.shown[column]?
  let left := screen.columnLeft column + indent found cls
  return ⟨left, rowMiddle row, screen.columnRight column cls⟩

/-- The space of the text of a part of the table. -/
def textLine? (screen : Screen) : Part → Option TextLine
  | .header cls => do
    let column ← screen.browser.listing.columns.shown.idxOf? cls
    return ⟨screen.columnLeft column, headerMiddle, none⟩
  | .arrow row column => screen.cellLine? row column fun row _ => arrowIndent row
  | .icon row column => screen.cellLine? row column fun row _ => iconIndent row
  | .cell row column => screen.cellLine? row column cellIndent
  | _ => none

/-- The points within which the border of two columns is grasped. -/
def borderReach : Int := 5

/-- Whether a place lies at the border after a column. -/
def isBorder (screen : Screen) (place : Int) (column : Nat) (cls : PropertyClass) : Bool :=
  let border := screen.columnRight column cls + points spacing / 2
  border - points borderReach ≤ place && place ≤ border + points borderReach

/-- The column in which a place lies. At the border of two columns it lies in none. -/
def columnAt? (screen : Screen) (place : Int) : Option (PropertyClass × Nat) :=
  let columns := screen.browser.listing.columns.shown.zipIdx
  if columns.any fun (cls, column) => screen.isBorder place column cls then none
  else columns.find? fun (cls, column) =>
    screen.columnLeft column ≤ place && place ≤ screen.columnRight column cls

/-- The row in which a height lies. -/
def rowAt? (screen : Screen) (height : Int) : Option (Row × Nat) :=
  screen.rows.zipIdx.find? fun (_, row) =>
    2 * (height - rowMiddle row) ≤ rowHeight && -rowHeight ≤ 2 * (height - rowMiddle row)

/-- Whether a position lies on a text so long that begins at a left edge. -/
def isOnText (position : Position) (left length middle : Int) : Bool :=
  (Box.mk left (middle - points 7) (left + length) (middle + points 7)).contains position

/-- The part of a cell that lies at a position: the arrow, a label, or else the cell itself. -/
def cellPartAt (screen : Screen) (position : Position) (found : Row × Nat)
    (cls : PropertyClass) (column : Nat) : Part :=
  let (row, place) := found
  let left := screen.columnLeft column
  let isOn := fun indent length => isOnText position (left + indent) length (rowMiddle place)
  let text := screen.browser.cellText row.node cls
  if isOn (cellIndent row cls) (points (textWidth text)) then .label
  else if cls != .name then .cell place column
  else if isOn (iconIndent row) iconLength then .label
  else if row.hasChildren && isOn (arrowIndent row) arrowLength then .arrow place column
  else .cell place column

/-- The part of the table that lies at a position. -/
def partAt (screen : Screen) (position : Position) : Part :=
  match screen.browser.snapshot?, screen.columnAt? position.x with
  | some _, some (cls, column) =>
    let title := headerText screen.browser.listing.sorting cls
    let left := screen.columnLeft column
    if isOnText position left (points (textWidth title)) headerMiddle then .header cls
    else match screen.rowAt? position.y with
      | some found => screen.cellPartAt position found cls column
      | none => .label
  | _, _ => .label

end Screen

namespace Sheet

/-- The space of the text of an item on the sheet. The sign of a submenu stands at the end. -/
def textLine? (sheet : Sheet) (piece : Painted) : Option TextLine := do
  let (item, box) ← sheet.item? piece.part
  let left := if piece.text = item.text then box.left + points item.lead
    else box.right - points item.trail
  return ⟨left, box.middle, none⟩

end Sheet

end DeviceBrowser

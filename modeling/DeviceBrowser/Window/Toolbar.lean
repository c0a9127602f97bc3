import DeviceBrowser.Window.Sheet

/-! The toolbar: where its search field and buttons lie, and which of them is met at the place of a
text in the search field. -/

namespace DeviceBrowser

open Text

namespace Screen

/-- The points between the edge of the window and what it shows. -/
def edge : Int := 8

/-- The points between two things in a row. -/
def spacing : Int := 6

/-- The points that a rule between two things takes, with the space before and after it. -/
def ruleWidth : Int := 18

/-- The size of the letters of the title in thousandths of a dot. -/
def titleSize : Nat := 18000

/-- The points that a text is wide. -/
def textWidth (text : String) : Int := lineWidth textSize text.toList

/-- The points that a button of the toolbar is wide. -/
def buttonWidth (text : String) : Int := textWidth text + 12

/-- The box of something in the toolbar, between a left and a right edge in points. -/
def toolbarBox (left right : Int) : Box := ⟨points left, points 10, points right, points 30⟩

/-- The points before a button that follows the search field: a rule comes before the menus. -/
def toolGap : Tool → Int
  | .viewMenu => ruleWidth
  | _ => spacing

/-- The boxes of buttons that follow one another to the right of a place in points. -/
def toolBoxes (screen : Screen) (place : Int) : List Tool → List (Part × Box)
  | [] => []
  | tool :: rest =>
    let left := place + toolGap tool
    let right := left + buttonWidth (screen.toolText tool)
    (.tool tool, toolbarBox left right) :: screen.toolBoxes right rest

/-- The points that the search field has for its text. -/
def searchWidth : Int := 220

/-- The points between the edge of the search field and its text. -/
def searchMargin : Int := 4

/-- The left edge of the button that refreshes in points: it comes after the title. -/
def refreshLeft : Int := edge + lineWidth titleSize "🔌 DevSleuth".toList + ruleWidth

/-- The left edge of the search field in points: it comes after the button that refreshes, which has
a least width. -/
def searchLeft (screen : Screen) : Int :=
  refreshLeft + max 80 (buttonWidth (screen.toolText .refresh)) + ruleWidth

/-- The boxes of the search field and of the buttons around it. -/
def toolbarBoxes (screen : Screen) : List (Part × Box) :=
  let searchRight := screen.searchLeft + searchWidth + 2 * searchMargin
  [(.tool .refresh, toolbarBox refreshLeft (screen.searchLeft - ruleWidth)),
    (.searchField, toolbarBox screen.searchLeft searchRight)] ++
    screen.toolBoxes searchRight (screen.searchTools ++ [.exportTable])

/-- How far the text in the search field is moved to the left: while the field has the focus the
end of a long text is seen, else the start. -/
def searchShift (text : String) (scale : Nat) (focused : Bool) : Int :=
  let width := dotLength scale (lineWidth (letterSize scale) text.toList)
  if focused then max 0 (width - points searchWidth) else 0

/-- The part that is met at the middle of the text in the search field or beside it. Either may lie
outside of the field. -/
def searchPart (screen : Screen) (text : String) (scale : Nat) (focused beside : Bool) : Part :=
  let place := match lineInk (letterSize scale) text.toList with
    | some ink =>
      if beside then dotLength scale ink.right + points besideGap
      else dotLength scale (ink.left + ink.right) / 2
    | none => 0
  let left := points (screen.searchLeft + searchMargin) - searchShift text scale focused
  match Box.within? ⟨left + place, points 20⟩ (points Sheet.reach) screen.toolbarBoxes with
  | some (.searchField, _) => if beside then .searchSpace else .searchField
  | some (part, _) => part
  | none => .label

/-- The upper left corner of the menu of a button of the toolbar. Its items begin below the button's
left edge. -/
def menuCorner (screen : Screen) (tool : Tool) : Position :=
  let button := screen.toolbarBoxes.find? fun found => found.1 == .tool tool
  ⟨(button.map (·.2.left)).getD 0 - points Sheet.margin, points 32⟩

end Screen

end DeviceBrowser

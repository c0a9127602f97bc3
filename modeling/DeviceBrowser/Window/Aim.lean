import DeviceBrowser.Window.Basic
import DeviceBrowser.Window.Layout

/-! What the pointer meets in the window: the part on or beside a text, unless a menu lies above it
there. -/

namespace DeviceBrowser

open Text

variable [Zone]

/-- What the pointer aims at: a part of the window below all menus, and its position where a menu
may lie above it. -/
structure Aim where
  part : Part
  position : Option Position

/-- What is met where the pointer aims: a part, and in which of the open menus it lies. -/
structure Encounter where
  part : Part
  inToolMenu : Bool
  inDeviceMenu : Bool
  inSubmenu : Bool

namespace Window

/-- The menu of the toolbar that is shown, as it lies in the window. -/
def toolSheet? (window : Window) : Option Sheet := do
  let tool ← window.shownTool?
  return .ofRows (window.screen.menuCorner tool) (Sheet.toolRows tool)

/-- The menu of a device that is shown, as it lies in the window. -/
def deviceSheet? (window : Window) : Option Sheet := do
  let popup ← window.shownPopup?
  return .ofMenu (← popup.menu? window.screen) popup.corner

/-- The open submenu, as it lies in the window. -/
def submenuSheet? (window : Window) : Option Sheet := do
  let popup ← window.shownPopup?
  if popup.submenu = .closed then none
  else Sheet.ofSubmenu (← popup.menu? window.screen) (← window.deviceSheet?)

/-- What is met where the pointer aims. The menu of a device lies above that of the toolbar, and its
submenu beside it. -/
def meet (window : Window) (aim : Aim) : Encounter :=
  match aim.position with
  | some position =>
    let holding := fun sheet? : Option Sheet => sheet?.filter (·.box.contains position)
    let tool? := holding window.toolSheet?
    let device? := holding window.deviceSheet?
    let inner? := holding window.submenuSheet?
    let part := [tool?, device?, inner?].foldl (fun beneath sheet? =>
      (sheet?.map (·.partAt position beneath)).getD beneath) aim.part
    ⟨part, tool?.isSome, device?.isSome || inner?.isSome, inner?.isSome⟩
  | none => ⟨aim.part, false, false, false⟩

/-- The part that is clicked on a text or beside it, of texts that have no space of their own. A
button is met beside its text too. -/
def partOn (window : Window) (piece : Painted) (beside : Bool) : Part :=
  match piece.part with
  | .searchField =>
    window.screen.searchPart piece.text window.scale window.searchSelection.isSome beside
  | .tool tool => .tool tool
  | _ => .label

/-- The part that is met nowhere, which is what lies on top of all: a menu, which closes, or the
button that closes the window about the program. -/
def partNowhere (window : Window) : Part :=
  if window.shownTool?.isNone && window.shownPopup?.isNone && window.screen.showsAbout then
    .closeAbout
  else .label

/-- The space of a text, if a menu may lie above it or it is in one. -/
def textLine? (window : Window) (piece : Painted) : Option TextLine :=
  let sheets := [window.submenuSheet?, window.deviceSheet?, window.toolSheet?]
  (window.screen.textLine? piece.part).or
    (sheets.findSome? fun sheet? => sheet?.bind (·.textLine? piece))

/-- What the pointer aims at on or beside a text. A text without ink, such as one of blanks, is
nowhere, and beside it there is nothing. -/
def aimAt (window : Window) (piece : Painted) (beside : Bool) : Aim :=
  if (lineInk textSize piece.text.toList).isNone then
    ⟨if beside then .label else window.partNowhere, none⟩
  else
    match (window.textLine? piece).bind (·.position? piece.text beside) with
    | some position => ⟨window.screen.partAt position, some position⟩
    | none => ⟨window.partOn piece beside, none⟩

end Window

end DeviceBrowser

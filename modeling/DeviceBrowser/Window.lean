import DeviceBrowser.Window.Aim

/-! The window in use: what clicks, keys and typing do to it. -/

namespace DeviceBrowser

open Text

variable [Zone]

namespace Window

/-- Exports the rows, if there are any. -/
def exportRows (window : Window) : Window :=
  if window.screen.rows.isEmpty then window
  else
    match window.screen.exportTo exportPath true with
    | (.ok (_, table), screen) => { window with screen, exported := some table }
    | (.error _, screen) => { window with screen }

/-- The place of the button of a menu in the toolbar. -/
def menuPlace? (window : Window) : Part → Option Nat
  | .tool tool => if tool.opensMenu then window.screen.searchTools.idxOf? tool else none
  | _ => none

/-- The pointer comes upon a part. While a menu of the toolbar is open, the button of another one
opens that in its stead. -/
def hover (window : Window) (part : Part) : Window :=
  { window with
    toolPlace := window.toolPlace.map fun place => (window.menuPlace? part).getD place
    devicePopup := window.devicePopup.map (·.hover part) }

/-- The menu of the toolbar after a press of a button: it closes when the primary one is pressed
outside of it, except on its own button. -/
def toolPlaceAfter (window : Window) (met : Encounter) (isSecondary : Bool) : Option Nat :=
  if isSecondary || met.inToolMenu || (window.menuPlace? met.part).isSome ||
      window.shownTool?.isNone then window.toolPlace
  else none

/-- The menu of a device after a press of a button: one that is shown closes when a button is
pressed outside of it, and any other one when the primary button is pressed in a cell. -/
def devicePopupAfter (window : Window) (met : Encounter) (isSecondary : Bool) :
    Option DevicePopup :=
  match window.shownPopup? with
  | some popup => if met.inDeviceMenu then some (popup.press met.inSubmenu) else none
  | none =>
    match met.part, isSecondary with
    | .cell _ _, false => none
    | _, _ => window.devicePopup

/-- The selection of the search field after a press of a button: a caret at the place that was
pressed, the middle of the text or beside it. Elsewhere a press takes the focus away. -/
def searchSelectionAfter (window : Window) (part : Part) : Option Selection :=
  let chars := window.screen.searchText.toList
  match part with
  | .searchField => some (.caret (middlePlace (letterSize window.scale) chars))
  | .searchSpace =>
    let gap := besideGap * window.scale / 100
    some (.caret (placeBehind (letterSize window.scale) gap chars))
  | _ => none

/-- A button of the mouse is pressed on what was met. -/
def press (window : Window) (met : Encounter) (isSecondary : Bool) : Window :=
  settle
    { window with
      toolPlace := window.toolPlaceAfter met isSecondary
      devicePopup := window.devicePopupAfter met isSecondary
      searchSelection := window.searchSelectionAfter met.part }

/-- Opens the menu at a place of the toolbar, or closes it if it is open. -/
def switchMenu (window : Window) (place : Option Nat) : Window :=
  { window with toolPlace := if window.toolPlace = place then none else place }

/-- Clicks a button of the toolbar. -/
def clickTool (window : Window) (tool : Tool) : Window :=
  match tool with
  | .refresh => if window.screen.isRefreshing then window else window.withScreen (·.refresh)
  | .clearSearch => window.withScreen (·.searchFor "")
  | .viewMenu | .columnsMenu => window.switchMenu (window.menuPlace? (.tool tool))
  | .exportTable => window.exportRows
  | .about => window.withScreen fun screen => { screen with showsAbout := true }
  | .theme => window.withScreen fun screen => { screen with dark := !screen.dark }

/-- Clicks a cell: its row is selected, and the second time in a row it collapses or expands too. -/
def clickCell (window : Window) (row : Nat) (extend isSecond : Bool) : Window :=
  window.withScreen fun screen =>
    let screen := screen.click row extend
    if isSecond then screen.toggleRow row else screen

/-- Chooses an item of a device's menu, which closes. A grayed item is not chosen. -/
def choose (window : Window) (item : MenuItem) : Window :=
  if item.enabled && window.shownPopup?.isSome then
    { window.withScreen (·.runOpenMenu item.command) with devicePopup := none }
  else window

/-- Selects the word at the caret of the search field. -/
def selectWord (window : Window) : Window :=
  { window with
    searchSelection := window.searchSelection.map fun selection =>
      wordAt window.screen.searchText.toList selection.first }

/-- Clicks a part with the primary button. The menus of the toolbar stay open. -/
def clickPart (window : Window) (part : Part) (extend isSecond : Bool) : Window :=
  match part with
  | .tool tool => window.clickTool tool
  | .searchField | .searchSpace => if isSecond then window.selectWord else window
  | .header cls => window.withScreen (·.clickHeader cls)
  | .arrow row _ => window.withScreen (·.toggleRow row)
  | .cell row _ => window.clickCell row extend isSecond
  | .toggleBox toggle => window.withScreen (·.flip toggle)
  | .detailsBox =>
    window.withScreen fun screen => { screen with showsDetails := !screen.showsDetails }
  | .columnBox cls =>
    if cls = .name then window
    else window.withScreen fun screen =>
      screen.showColumn cls (!screen.browser.listing.columns.shows cls)
  | .menuItem item _ => window.choose item
  | .closeAbout => window.withScreen fun screen => { screen with showsAbout := false }
  | .label | .icon _ _ | .submenu _ => window

/-- Opens the menu of the device at a row, which is selected alone unless it is selected. A menu
that is open where the pointer is stays there and takes up the device. -/
def openDeviceMenu (window : Window) (row column : Nat) (aim : Aim) : Window :=
  match window.screen.rows[row]? with
  | some _ =>
    let cls := window.screen.browser.listing.columns.shown[column]?
    { window.withScreen fun screen => screen.rightClick row cls with
      devicePopup :=
        if (window.meet aim).inDeviceMenu then window.devicePopup
        else aim.position.map (.ofCell row column) }
  | none => window

/-- Clicks a part with the secondary button: a cell opens the menu of its device. -/
def clickSecondary (window : Window) (part : Part) (aim : Aim) : Window :=
  match part with
  | .cell row column => window.openDeviceMenu row column aim
  | _ => window

/-- Presses a button on what was met and releases it, for the first or the second time. -/
def clickOnce (window : Window) (met : Encounter) (aim : Aim) (press : Press) (isSecond : Bool) :
    Window :=
  let window := window.press met press.isSecondary
  settle <|
    if press.isSecondary then window.clickSecondary met.part aim
    else window.clickPart met.part press.isExtending isSecond

/-- Clicks where the pointer aims, once or twice. The second click is none where the first one left
another part under the pointer. -/
def click (window : Window) (aim : Aim) (press : Press) : Window :=
  let window := window.hover (window.meet aim).part
  let first := window.meet aim
  let once := window.clickOnce first aim press false
  let second := once.meet aim
  if !press.isDouble then once
  else if second.part = first.part then once.clickOnce second aim press true
  else once.press second press.isSecondary

/-- The last text that reads as given, or the one of a number among those. -/
def find? (window : Window) (text : String) (position : Option Nat) : Option Painted :=
  let found := window.painted.filter fun piece => piece.text == text
  match position with
  | some position => found[position]?
  | none => found.getLast?

/-- Clicks a text or beside it; nothing comes of a text that is not there. -/
def clickText? (window : Window) (text : String) (position : Option Nat) (beside : Bool)
    (press : Press) : Option Window :=
  (window.find? text position).map fun piece => window.click (window.aimAt piece beside) press

/-- Presses the key that refreshes. -/
def pressRefresh (window : Window) : Window := settle (window.withScreen (·.refresh))

/-- Presses the key that leaves: menus that are shown close, and selection and focus go. -/
def pressEscape (window : Window) : Window :=
  settle
    { window.withScreen (·.clearSelection) with
      toolPlace := none
      devicePopup := if window.shownPopup?.isSome then none else window.devicePopup
      searchSelection := none }

/-- Puts a text in the place of the selection of the search field. -/
def insertText (window : Window) (selection : Selection) (text : String) : Window :=
  let chars := selection.replace window.screen.searchText.toList text.toList
  { window.withScreen (·.searchFor (String.ofList chars)) with
    searchSelection := some (selection.behind text.toList) }

/-- Types a text, which goes into the search field when that has the focus. A line break alone is
no text. -/
def type (window : Window) (text : String) : Window :=
  match window.searchSelection with
  | some selection =>
    if (["", "\n", "\r"] : List String).contains text then window
    else settle (window.insertText selection text)
  | none => window

/-- Sets the scale in percent. Icons are given out anew at another scale. -/
def rescale (window : Window) (percent : Nat) : Window :=
  if percent = window.scale then window
  else
    settle { window.withScreen fun screen => screen.withBrowser (·.clearIcons) with
      scale := percent }

/-- Takes the text that was put on the clipboard. -/
def takeCopied (window : Window) : Option String × Window :=
  (window.screen.clipboard, window.withScreen fun screen => { screen with clipboard := none })

/-- Lets the worker answer all that waits. -/
def exchangeAll (window : Window) (source : Source) (now : FileTime) : Window × Source :=
  let (_, screen, source) := window.screen.settle source now
  (settle { window with screen }, source)

end Window

end DeviceBrowser

import DeviceBrowser.Proofs.Browser.Selection
import DeviceBrowser.Proofs.Menu.Commands
import DeviceBrowser.Proofs.Screen.Rows
import DeviceBrowser.Window

/-! A right click on a row opens a menu for its node, over a selection that holds the node unless
the search hides it. A row that is listed for the sake of the rows below it is no part of it. -/

namespace DeviceBrowser

/-- Whether a command acts on the node that was clicked, and not on the selection. -/
def Command.actsOnNode : Command → Bool
  | .goToService => true
  | .openKey _ => true
  | .properties => true
  | _ => false

namespace Menu

variable {node : Option Nat} {column : Option PropertyClass} {command : Command}

/-- A command that acts on the node can be chosen only where one node is selected. -/
theorem length_of_isEnabled [Zone] {snapshot : Snapshot} {selection : List Nat}
    {columns : List PropertyClass} {preferences : Preferences} {elevated : Bool}
    (acts : command.actsOnNode = true)
    (enabled : (onSnapshot snapshot node selection columns column preferences elevated).isEnabled
      command = true) : selection.length = 1 := by
  rw [isEnabled_onSnapshot] at enabled
  -- Each such command is permitted on a single node, and one of them asks for more.
  have single : (onSnapshot snapshot node selection columns column preferences elevated).isSingle =
      true := by
    cases command with
    | goToService => exact (Bool.and_eq_true_iff.mp enabled).1
    | openKey area => exact enabled
    | properties => exact enabled
    | _ => cases acts
  exact beq_iff_eq.mp (Bool.and_eq_true_iff.mp single).2

/-- Where the selection holds a node, such a command can be chosen only if it is that node alone. -/
theorem selection_of_isEnabled [Zone] {snapshot : Snapshot} {selection : List Nat}
    {columns : List PropertyClass} {preferences : Preferences} {elevated : Bool} {number : Nat}
    (member : number ∈ selection) (acts : command.actsOnNode = true)
    (enabled : (onSnapshot snapshot node selection columns column preferences elevated).isEnabled
      command = true) : selection = [number] := by
  -- The command can be chosen for a single node only, and the one given is selected.
  obtain ⟨only, isOnly⟩ := List.length_eq_one_iff.mp (length_of_isEnabled acts enabled)
  rw [isOnly, List.mem_singleton] at member
  rw [isOnly, member]

end Menu

namespace Browser

variable {zone : Zone}

variable {text : String} {browser : Browser} {snapshot : Snapshot} {number : Nat}

/-- The selection of a sound browser holds the nodes that are visible and selected. -/
theorem Sound.mem_selection_iff (sound : Sound text browser)
    (displayed : browser.snapshot? = some snapshot) (within : number < snapshot.size) :
    number ∈ browser.selection ↔
      browser.isVisible number = true ∧ browser.isSelected number = true := by
  -- Every node on display has a place in the order.
  have ordered := sound.mem_order displayed within
  simp [selection_eq, ordered, and_comm]

/-- The browser in which a menu for a node opens: the node is selected alone unless it was. -/
def selectFor (browser : Browser) (number : Nat) : Browser :=
  if browser.isSelected number then browser else browser.selectOnly number

/-- Selecting a node for its menu leaves the snapshot on display. -/
theorem snapshot?_selectFor (browser : Browser) (number : Nat) :
    (browser.selectFor number).snapshot? = browser.snapshot? := by
  -- A node that is selected already is left alone, and selecting writes states only.
  rw [selectFor]
  split
  · rfl
  · rw [selectOnly, snapshot?_select, snapshot?_clearSelection]

/-- Where one node is selected alone, the selection holds it unless it is hidden. -/
theorem Sound.selection_selectOnly (sound : Sound text browser) {published : Published}
    (active : browser.stage.active = some published) (within : number < published.snapshot.size) :
    (browser.selectOnly number).selection =
      if browser.isVisible number = true then [number] else [] := by
  -- The order holds the node once, and no other is selected.
  have state : number < published.states.size := by
    rw [sound.size published active]
    exact within
  have selected : (browser.selectOnly number).isSelected = (· == number) :=
    funext (isSelected_selectOnly active state)
  have ordered := sound.mem_order (snapshot?_of_active active) within
  have distinct : (browser.order.filter browser.isVisible).Nodup := sound.order_nodup.filter _
  rw [selection_eq, order_selectOnly, isVisible_selectOnly, selected, List.filter_beq,
    distinct.count]
  by_cases visible : browser.isVisible number = true
  · have member : number ∈ browser.order.filter browser.isVisible :=
      List.mem_filter.mpr ⟨ordered, visible⟩
    rw [if_pos member, if_pos visible]
    rfl
  · have absent : number ∉ browser.order.filter browser.isVisible :=
      fun member => visible (List.mem_filter.mp member).2
    rw [if_neg absent, if_neg visible]
    rfl

/-- A node for which a menu opens is in the selection exactly if it is visible. -/
theorem Sound.mem_selection_selectFor (sound : Sound text browser) {published : Published}
    (active : browser.stage.active = some published) (within : number < published.snapshot.size) :
    number ∈ (browser.selectFor number).selection ↔ browser.isVisible number = true := by
  -- It was selected before, or it is the only one that is now.
  rw [selectFor]
  split
  · rename_i selected
    rw [sound.mem_selection_iff (snapshot?_of_active active) within]
    simp only [selected, and_true]
  · rw [sound.selection_selectOnly active within]
    split
    · rename_i visible
      simp only [visible, List.mem_singleton]
    · rename_i hidden
      simp only [hidden, List.not_mem_nil, Bool.false_eq_true]

/-- A row of a node that is hidden stands in a tree, while a text is looked for. -/
theorem Sound.searching_of_hidden (sound : Sound text browser) {collapsed : List UInt32} {row : Row}
    (member : row ∈ browser.rows collapsed) (hidden : browser.isVisible row.node = false) :
    browser.listing.isFlat = false ∧ browser.listing.search.isSome = true := by
  obtain ⟨published, active, readable⟩ := sound.holds_rows member
  constructor
  · -- A flat listing has rows of visible nodes alone.
    by_contra flat
    rw [Bool.not_eq_false] at flat
    rw [rows, if_pos flat] at member
    obtain ⟨listed, shown, rfl⟩ := List.mem_map.mp member
    have visible : browser.isVisible listed = true := by
      simpa [isShown, isVisible, active, Listing.isShown, flat] using (List.mem_filter.mp shown).2
    rw [visible] at hidden
    cases hidden
  · -- Without a search every node matches.
    by_contra idle
    rw [Option.not_isSome_iff_eq_none] at idle
    have marked : (marks browser.listing published.snapshot)[row.node]? = some true := by
      have node := readable.node
      simp [marks, Snapshot.matching, idle, node]
    rw [(sound.isVisible_iff (snapshot?_of_active active) row.node).mpr marked] at hidden
    cases hidden

end Browser

namespace Screen

variable {screen : Screen} {position : Nat} {row : Row}

/-- The menu of a row opens over the selection that is made for it. -/
theorem menu_rightClick [Zone] (found : screen.rows[position]? = some row)
    (column : Option PropertyClass) :
    (screen.rightClick position column).menu =
      (screen.browser.selectFor row.node).menu? (some row.node) column := by
  -- Either the node is selected already, or clicking selects it alone, just as it is done for the
  -- menu.
  simp only [rightClick, found, Browser.selectFor]
  split
  · rfl
  · simp [openMenu, menuFor, click, found, withBrowser, browser]

/-- What a menu that a right click opened for a node addresses. It is a menu for the node, and its
selection holds the node exactly if it is visible. A node that was selected leaves the selection as
it was, and another one is selected alone. Only in a tree, and while a text is looked for, a row may
belong to a node that is not visible. Where it is visible, a command on the node can be chosen only
if the selection is that node. -/
structure Addresses (screen : Screen) (node : Nat) (menu : Menu) : Prop where
  node_eq : menu.node = some node
  mem_iff : node ∈ menu.selection ↔ screen.browser.isVisible node = true
  selected : screen.browser.isSelected node = true → menu.selection = screen.browser.selection
  alone : screen.browser.isSelected node = false →
    menu.selection = if screen.browser.isVisible node = true then [node] else []
  hidden : screen.browser.isVisible node = false →
    screen.browser.listing.isFlat = false ∧ screen.browser.listing.search.isSome = true
  single : screen.browser.isVisible node = true → ∀ command : Command,
    command.actsOnNode = true → menu.isEnabled command = true → menu.selection = [node]

/-- After any run, a right click on a row opens a menu that addresses the node of the row. -/
theorem Reached.addresses_rightClick [Zone] (reached : Reached screen)
    (found : screen.rows[position]? = some row) (column : Option PropertyClass) :
    ∃ menu, (screen.rightClick position column).menu = some menu ∧
      screen.Addresses row.node menu := by
  obtain ⟨text, sound⟩ : ∃ text, Browser.Sound text screen.browser :=
    reached.sound.session.browser
  have member : row ∈ screen.browser.rows screen.collapsed := by
    rw [← reached.sound.rows]
    exact List.mem_of_getElem? found
  -- The node of a row is on display, and so is the snapshot that the menu is made for.
  obtain ⟨published, active, readable⟩ := sound.holds_rows member
  have displayed : (screen.browser.selectFor row.node).snapshot? = some published.snapshot :=
    (Browser.snapshot?_selectFor _ _).trans (Browser.snapshot?_of_active active)
  have mem_iff := sound.mem_selection_selectFor active readable.node
  rw [menu_rightClick found column, Browser.menu?, displayed]
  refine ⟨_, rfl, ?_⟩
  constructor
  · rfl
  · exact mem_iff
  · intro selected
    rw [Browser.selectFor, if_pos selected]
    rfl
  · intro unselected
    have alone := sound.selection_selectOnly active readable.node
    have other : ¬ screen.browser.isSelected row.node = true := by simp [unselected]
    rw [Browser.selectFor, if_neg other]
    exact alone
  · exact sound.searching_of_hidden member
  · intro visible command acts enabled
    exact Menu.selection_of_isEnabled (mem_iff.mpr visible) acts enabled

/-- A connected device. -/
def connected (id : String) : Device := (Device.ofId id false).set .isPresent (.flag true)

/-- A device with another one below it. -/
def penInventory : Inventory :=
  (Inventory.empty.addRoot (connected "PC")).addChild 0 (connected "PEN")

/-- The answer that brings them. -/
def penAnswer : RefreshAnswer :=
  RefreshAnswer.ofRequest ⟨1, false, .standard, none⟩ ⟨1, penInventory⟩

/-- The screen that displays them, with elevated rights. -/
def penScreen : Screen :=
  let started := ofSession (.start (.inMemory .empty) true)
  let worker := ⟨[], none, started.session.worker.answers ++ [penAnswer]⟩
  (advance { started with session := { started.session with worker } } default .zero).2

/-- The same with both devices selected and the lower one looked for. -/
def penSearched : Screen :=
  search { (penScreen.click 0 false).click 1 true with searchText := "pen" }

theorem reached_penSearched : Reached penSearched := by
  -- The answer arrives and is displayed, both rows are clicked, and then the text is looked for.
  have grown : penInventory.Grown := .addChild (.addRoot .empty _) (by decide) _
  have brings : ∀ arrived ∈ [penAnswer], arrived.Built := by
    intro arrived isFirst
    cases List.mem_singleton.mp isFirst
    exact RefreshAnswer.built_ofRequest _ grown
  have started := Reached.start (.inMemory .empty) true
  have answered := started.step (.work _ ⟨[], none, _⟩ brings rfl)
  have displayed : Reached penScreen := answered.step (.advance _ default .zero)
  have clicked := (displayed.step (.click _ 0 false)).step (.click _ 1 true)
  exact (clicked.step (.edit _ "pen")).step (.search _)

/-- A right click on the device that was looked for addresses it alone. -/
theorem addresses_rightClick_pen : ∃ menu, Reached penSearched ∧
    penSearched.rows[1]? = some ⟨1, 1, false, false⟩ ∧
    (penSearched.rightClick 1 (some .name)).menu = some menu ∧
    menu.isEnabled .properties = true ∧ penSearched.Addresses 1 menu := by
  -- Its row is the second one, below that of the device it is connected to.
  have found : penSearched.rows[1]? = some ⟨1, 1, false, false⟩ := by decide +kernel
  obtain ⟨menu, opened, addresses⟩ := reached_penSearched.addresses_rightClick found (some .name)
  have enabled : (penSearched.rightClick 1 (some .name)).menu.any
      (·.isEnabled .properties) = true := by decide +kernel
  rw [opened] at enabled
  exact ⟨menu, reached_penSearched, found, opened, enabled, addresses⟩

/-- A right click on the device above it, which is listed for its sake only, opens a menu that shows
the properties of the one and uninstalls the other. -/
theorem rightClick_apart : ∃ menu, Reached penSearched ∧
    penSearched.rows[0]? = some ⟨0, 0, true, true⟩ ∧
    (penSearched.rightClick 0 (some .name)).menu = some menu ∧
    menu.node = some 0 ∧ menu.selection = [1] ∧
    menu.isEnabled .properties = true ∧ Menu.propertiesTarget menu.snapshot 0 = some "PC" ∧
    menu.isEnabled .uninstall = true ∧ menu.selectedIds = ["PEN"] := by
  -- The menu is computed, and each of its parts is read off.
  have isOpen : (penSearched.rightClick 0 (some .name)).menu.isSome = true := by decide +kernel
  have apart : (penSearched.rightClick 0 (some .name)).menu.all (fun menu =>
      menu.node = some 0 ∧ menu.selection = [1] ∧
      menu.isEnabled .properties = true ∧ Menu.propertiesTarget menu.snapshot 0 = some "PC" ∧
      menu.isEnabled .uninstall = true ∧ menu.selectedIds = ["PEN"]) = true := by decide +kernel
  obtain ⟨menu, opened⟩ := Option.isSome_iff_exists.mp isOpen
  rw [opened] at apart
  exact ⟨menu, reached_penSearched, by decide +kernel, opened, of_decide_eq_true apart⟩

end Screen

end DeviceBrowser

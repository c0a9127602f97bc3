import DeviceBrowser.Menu.Action
import DeviceBrowser.Snapshot

/-! The context menu: its entries for a node and a selection, which commands it offers, and what
choosing one does. -/

namespace DeviceBrowser

open Text

variable [Zone]

/-- The commands of the context menu. -/
inductive Command where
  | refresh
  | toggle (toggle : Toggle)
  | goToService
  | enable
  | disable
  | restart
  | uninstall
  | openKey (area : KeyArea)
  | properties
  | copy
  | copyCell (cls : PropertyClass)
deriving DecidableEq

/-- An item of a menu: a command under a label, which may be grayed out or carry a check mark. -/
structure MenuItem where
  command : Command
  label : String
  enabled : Bool
  checked : Option Bool
deriving DecidableEq

/-- An entry of a menu. -/
inductive MenuEntry where
  | item (item : MenuItem)
  | submenu (label : String) (enabled : Bool) (items : List MenuItem)
  | separator

/-- Whether an entry offers a command and lets it be chosen. -/
def MenuEntry.enables (command : Command) : MenuEntry → Bool
  | item offered => offered.command == command && offered.enabled
  | submenu _ enabled items =>
    enabled && items.any fun offered => offered.command == command && offered.enabled
  | separator => false

/-- An action that failed, and for which device or service; empty for the clipboard. -/
structure ActionFailure where
  subject : String
  error : ActionError
deriving DecidableEq

/-- What came of a command: whether a new tree is needed, a switch to flip, and what failed. -/
structure Outcome where
  republish : Bool
  toggle : Option Toggle
  failures : List ActionFailure
deriving DecidableEq

namespace Outcome

/-- Nothing came of it. -/
def nothing : Outcome := ⟨false, none, []⟩

/-- What came of a single action. -/
def ofResult (subject : String) : Option ActionError → Outcome
  | none => nothing
  | some error => ⟨false, none, [⟨subject, error⟩]⟩

end Outcome

/-- A menu opened over a snapshot: for a node or for none, a selection, and the cell clicked. -/
structure Menu where
  snapshot : Snapshot
  node : Option Nat
  selection : List Nat
  columns : List PropertyClass
  column : Option PropertyClass
  entries : List MenuEntry

namespace Menu

/-- An item without a check mark. -/
def plain (command : Command) (label : String) (enabled : Bool) : MenuItem :=
  ⟨command, label, enabled, none⟩

/-- The item of a switch, checked when it is on. -/
def switch (preferences : Preferences) (toggle : Toggle) : MenuEntry :=
  .item ⟨.toggle toggle, toggle.label, true, some (preferences.isOn toggle)⟩

/-- The submenu that opens the areas of a device's settings. -/
def keyMenu (enabled : Bool) : MenuEntry :=
  .submenu "Open key" enabled
    (KeyArea.all.map fun area => plain (.openKey area) area.label enabled)

/-- The entries of a menu. `single` says that one node alone is selected, `served` that it has a
service too, and `acting` that the selection may be acted upon. -/
def entriesFor (preferences : Preferences) (single served acting copying : Bool) :
    List MenuEntry :=
  [.item (plain .refresh "Refresh" true), switch preferences .autoRefresh, .separator] ++
    (Toggle.all.filter (· != .autoRefresh)).map (switch preferences) ++
    [.separator, .item (plain .goToService "Go to service..." served),
      .separator, .item (plain .enable "Enable" acting), .item (plain .disable "Disable" acting),
      .item (plain .restart "Restart" acting), .item (plain .uninstall "Uninstall" acting),
      .separator, keyMenu single,
      .separator, .item (plain .properties "Properties" single),
      .separator, .item (plain .copy "Copy" copying)]

/-- The entry that copies a cell: offered when a cell of a node was clicked. -/
def cellEntry (node : Option Nat) (column : Option PropertyClass) : List MenuEntry :=
  match node, column with
  | some _, some cls => [.item (plain (.copyCell cls) ("Copy \"" ++ cls.title ++ "\"") true)]
  | _, _ => []

/-- Whether a node's device has a service. -/
def hasService (snapshot : Snapshot) : Option Nat → Bool
  | some number =>
    match snapshot.device? number with
    | some device => !device.service.isEmpty
    | none => false
  | none => false

/-- The menu over a snapshot. Actions on devices need elevated rights. -/
def onSnapshot (snapshot : Snapshot) (node : Option Nat) (selection : List Nat)
    (columns : List PropertyClass) (column : Option PropertyClass) (preferences : Preferences)
    (elevated : Bool) : Menu :=
  let single := node.isSome && selection.length == 1
  let any := !selection.isEmpty
  { snapshot, node, selection, columns, column
    entries :=
      entriesFor preferences single (single && hasService snapshot node) (elevated && any) any ++
        cellEntry node column }

/-- Whether a command is offered and may be chosen. -/
def isEnabled (menu : Menu) (command : Command) : Bool :=
  menu.entries.any (MenuEntry.enables command)

/-- The instance id of a node. -/
def idOf (snapshot : Snapshot) (number : Nat) : String :=
  match snapshot.device? number with
  | some device => device.id
  | none => ""

/-- Whose properties are shown for a node: those of the device that an interface belongs to, and of
any other device its own; none without an id. -/
def propertiesTarget (snapshot : Snapshot) (number : Nat) : Option String := do
  let node ← snapshot.node? number
  let entry ← snapshot.entry? number
  let inventory := snapshot.edition.inventory
  let position ← if entry.device.isInterface then inventory.parent? node.position
    else some node.position
  let target ← inventory.entry? position
  if target.device.id.isEmpty then none else some target.device.id

/-- The rows of nodes as text: cells between tabs, and a newline after each row. -/
def rowsText (snapshot : Snapshot) (nodes : List Nat) (columns : List PropertyClass) : String :=
  String.join (nodes.map fun number =>
    join "\t" (columns.map (snapshot.cellText number)) ++ "\n")

/-- The text of the selected rows. -/
def selectionText (menu : Menu) : String := rowsText menu.snapshot menu.selection menu.columns

/-- Performs an action for each of a list of ids in turn, whatever came of those before: the
failures in order, how many succeeded, and the system afterwards. -/
def performAll {σ : Type} (actions : Actions σ) (action : String → Action) :
    List String → σ → List ActionFailure × Nat × σ
  | [], state => ([], 0, state)
  | id :: rest, state =>
    let (error, state) := actions.perform (action id) state
    let (failures, succeeded, state) := performAll actions action rest state
    match error with
    | none => (failures, succeeded + 1, state)
    | some error => (⟨id, error⟩ :: failures, succeeded, state)

/-- The ids of the selected devices that have one. -/
def selectedIds (menu : Menu) : List String :=
  (menu.selection.map (idOf menu.snapshot)).filter fun id => !id.isEmpty

/-- Performs an action for every selected device. A new tree is needed once one has succeeded. -/
def bulk {σ : Type} (menu : Menu) (actions : Actions σ) (action : String → Action) (state : σ) :
    Outcome × σ :=
  let (failures, succeeded, state) := performAll actions action menu.selectedIds state
  (⟨0 < succeeded, none, failures⟩, state)

/-- Performs one action for a subject. -/
def performOne {σ : Type} (actions : Actions σ) (subject : String) (action : Action) (state : σ) :
    Outcome × σ :=
  let (error, state) := actions.perform action state
  (.ofResult subject error, state)

/-- Carries out a command that may be chosen. -/
def carryOut {σ : Type} (menu : Menu) (actions : Actions σ) (state : σ) (command : Command) :
    Outcome × σ :=
  match command, menu.node with
  | .refresh, _ => ({ Outcome.nothing with republish := true }, state)
  | .toggle toggle, _ => ({ Outcome.nothing with toggle := some toggle }, state)
  | .enable, _ => menu.bulk actions .enable state
  | .disable, _ => menu.bulk actions .disable state
  | .restart, _ => menu.bulk actions .restart state
  | .uninstall, _ => menu.bulk actions .uninstall state
  | .copy, _ => performOne actions "" (.copy menu.selectionText) state
  | .goToService, some number =>
    let service := ((menu.snapshot.device? number).map (·.service)).getD ""
    performOne actions service (.goToService service) state
  | .openKey area, some number =>
    let id := idOf menu.snapshot number
    performOne actions id (.openKey id area) state
  | .properties, some number =>
    match propertiesTarget menu.snapshot number with
    | some id => performOne actions id (.showProperties id) state
    | none => (.nothing, state)
  | .copyCell cls, some number =>
    performOne actions "" (.copy (menu.snapshot.cellText number cls)) state
  | _, none => (.nothing, state)

/-- Executes a command: one that may not be chosen does nothing. -/
def execute {σ : Type} (menu : Menu) (actions : Actions σ) (state : σ) (command : Command) :
    Outcome × σ :=
  if menu.isEnabled command then menu.carryOut actions state command else (.nothing, state)

end Menu

end DeviceBrowser

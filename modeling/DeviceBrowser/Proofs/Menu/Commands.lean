import DeviceBrowser.Menu

/-! What a menu offers, and what comes of choosing it: a command that is not offered does nothing,
one that acts on the selection asks for each device once whatever came of those before, and without
elevated rights no device is changed. -/

namespace DeviceBrowser

variable {σ : Type}

/-- The action that a command asks for on each selected device, if it acts on all of them. -/
def Command.onEach? : Command → Option (String → Action)
  | .enable => some .enable
  | .disable => some .disable
  | .restart => some .restart
  | .uninstall => some .uninstall
  | _ => none

/-- Whether an action changes a device. -/
def Action.changesDevice : Action → Bool
  | .enable _ => true
  | .disable _ => true
  | .restart _ => true
  | .uninstall _ => true
  | _ => false

/-- An action that was asked for, and the error that was answered, if any. -/
structure Call where
  action : Action
  error : Option ActionError
deriving DecidableEq

namespace Actions

/-- The same system with a record of its calls, the last at the end. -/
def recorded (actions : Actions σ) : Actions (List Call × σ) where
  perform action state :=
    let (error, next) := actions.perform action state.2
    (error, state.1 ++ [⟨action, error⟩], next)

/-- The answer is the one of the system, and the call is put on record. -/
theorem perform_recorded (actions : Actions σ) (action : Action) (record : List Call)
    (state : σ) :
    actions.recorded.perform action (record, state) =
      ((actions.perform action state).1, record ++ [⟨action, (actions.perform action state).1⟩],
        (actions.perform action state).2) := rfl

/-- The calls that are made when actions are asked for in turn, and the system afterwards. -/
def askAll (actions : Actions σ) : List Action → σ → List Call × σ
  | [], state => ([], state)
  | action :: rest, state =>
    let (error, next) := actions.perform action state
    let (calls, last) := askAll actions rest next
    (⟨action, error⟩ :: calls, last)

/-- Each action is asked for once, in turn. -/
theorem map_action_askAll (actions : Actions σ) (asked : List Action) (state : σ) :
    (actions.askAll asked state).1.map (·.action) = asked := by
  -- What is answered changes the system that answers next, and never what is asked for.
  induction asked generalizing state with
  | nil => rfl
  | cons action rest ih =>
    rw [askAll, List.map_cons, ih]

/-- The record grows by the calls that the system itself would have answered. -/
theorem askAll_recorded (actions : Actions σ) (asked : List Action) (record : List Call)
    (state : σ) :
    actions.recorded.askAll asked (record, state) =
      ((actions.askAll asked state).1, record ++ (actions.askAll asked state).1,
        (actions.askAll asked state).2) := by
  induction asked generalizing record state with
  | nil => simp [askAll]
  | cons action rest ih =>
    -- The first call is on record before the next is made.
    rw [askAll, askAll, perform_recorded]
    simp [ih]

end Actions

/-- The failures among calls that were made for subjects in turn. -/
def failuresOf (subjects : List String) (calls : List Call) : List ActionFailure :=
  (subjects.zip calls).filterMap fun (subject, call) => call.error.map (⟨subject, ·⟩)

namespace Menu

section AnyZone

variable {zone : Zone}

/-- A menu offers a command when an item for it may be chosen, which stands among the entries or in
a submenu that may be opened. -/
def Offers (menu : Menu) (command : Command) : Prop :=
  ∃ item : MenuItem, item.command = command ∧ item.enabled = true ∧
    (.item item ∈ menu.entries ∨
      ∃ label items, .submenu label true items ∈ menu.entries ∧ item ∈ items)

/-- A command can be chosen exactly if it is offered. -/
theorem isEnabled_iff_offers {menu : Menu} {command : Command} :
    menu.isEnabled command = true ↔ menu.Offers command := by
  rw [isEnabled, List.any_eq_true]
  constructor
  · -- The entry that enables the command is the item itself, or the submenu that it stands in.
    rintro ⟨entry, member, enables⟩
    cases entry with
    | item item =>
      simp only [MenuEntry.enables, Bool.and_eq_true, beq_iff_eq] at enables
      exact ⟨item, enables.1, enables.2, .inl member⟩
    | submenu label enabled items =>
      simp only [MenuEntry.enables, Bool.and_eq_true, List.any_eq_true, beq_iff_eq] at enables
      obtain ⟨rfl, item, among, same, chosen⟩ := enables
      exact ⟨item, same, chosen, .inr ⟨label, items, member, among⟩⟩
    | separator => cases enables
  · rintro ⟨item, rfl, chosen, member | ⟨label, items, member, among⟩⟩
    · exact ⟨_, member, by simp [MenuEntry.enables, chosen]⟩
    · refine ⟨_, member, ?_⟩
      simp only [MenuEntry.enables, Bool.true_and, List.any_eq_true, Bool.and_eq_true, beq_iff_eq]
      exact ⟨item, among, rfl, chosen⟩

/-- Whether a menu is for a node, and one node is selected. -/
def isSingle (menu : Menu) : Bool := menu.node.isSome && menu.selection.length == 1

/-- Which commands a menu permits, by what it was opened for. -/
def permits [Zone] (menu : Menu) (elevated : Bool) : Command → Bool
  | .refresh => true
  | .toggle _ => true
  | .goToService => menu.isSingle && hasService menu.snapshot menu.node
  | .enable => elevated && !menu.selection.isEmpty
  | .disable => elevated && !menu.selection.isEmpty
  | .restart => elevated && !menu.selection.isEmpty
  | .uninstall => elevated && !menu.selection.isEmpty
  | .openKey _ => menu.isSingle
  | .properties => menu.isSingle
  | .copy => !menu.selection.isEmpty
  | .copyCell cls => menu.node.isSome && menu.column == some cls

/-- The entries that every menu has enable each command by the item that is made for it. -/
theorem enables_entriesFor (preferences : Preferences) (single served acting copying : Bool)
    (command : Command) :
    (entriesFor preferences single served acting copying).any (MenuEntry.enables command) =
      match command with
      | .refresh => true
      | .toggle _ => true
      | .goToService => served
      | .enable => acting
      | .disable => acting
      | .restart => acting
      | .uninstall => acting
      | .openKey _ => single
      | .properties => single
      | .copy => copying
      | .copyCell _ => false := by
  rw [Bool.eq_iff_iff]
  -- Switches and areas have an item each, which is told apart from the others by what it is for.
  cases command with
  | toggle toggle => cases toggle <;> simp [entriesFor, MenuEntry.enables, switch, Toggle.all]
  | openKey area =>
    cases area <;>
      simp [entriesFor, MenuEntry.enables, plain, switch, keyMenu, Toggle.all, KeyArea.all]
  | _ => simp [entriesFor, MenuEntry.enables, plain, switch, keyMenu, Toggle.all, KeyArea.all]

/-- The entry for the clicked cell offers to copy that cell, and nothing else. -/
theorem enables_cellEntry (node : Option Nat) (column : Option PropertyClass)
    (command : Command) :
    (cellEntry node column).any (MenuEntry.enables command) =
      match command with
      | .copyCell cls => node.isSome && column == some cls
      | _ => false := by
  -- Without a node or a column there is no such entry.
  rw [Bool.eq_iff_iff]
  cases node with
  | none => cases command <;> simp [cellEntry]
  | some number =>
    cases column with
    | none => cases command <;> simp [cellEntry]
    | some cls => cases command <;> simp [cellEntry, MenuEntry.enables, plain]

/-- The commands that can be chosen are those that are permitted. -/
theorem isEnabled_onSnapshot (snapshot : Snapshot) (node : Option Nat) (selection : List Nat)
    (columns : List PropertyClass) (column : Option PropertyClass) (preferences : Preferences)
    (elevated : Bool) (command : Command) :
    (onSnapshot snapshot node selection columns column preferences elevated).isEnabled command =
      (onSnapshot snapshot node selection columns column preferences elevated).permits elevated
        command := by
  -- A cell is copied by the last entry, and every other command is chosen among those before it.
  rw [isEnabled, onSnapshot, List.any_append, enables_entriesFor, enables_cellEntry]
  cases command <;> simp [permits, isSingle]

/-- The actions that a command asks for, in turn. -/
def asksFor [Zone] (menu : Menu) : Command → List Action
  | .refresh => []
  | .toggle _ => []
  | .enable => menu.selectedIds.map .enable
  | .disable => menu.selectedIds.map .disable
  | .restart => menu.selectedIds.map .restart
  | .uninstall => menu.selectedIds.map .uninstall
  | .copy => [.copy menu.selectionText]
  | .goToService =>
    menu.node.toList.map fun number =>
      .goToService (((menu.snapshot.device? number).map (·.service)).getD "")
  | .openKey area => menu.node.toList.map fun number => .openKey (idOf menu.snapshot number) area
  | .properties => (menu.node.bind (propertiesTarget menu.snapshot)).toList.map .showProperties
  | .copyCell cls => menu.node.toList.map fun number => .copy (menu.snapshot.cellText number cls)

section Performing

variable (menu : Menu) (actions : Actions σ) (record : List Call) (state : σ)

/-- A batch makes one call for each id, and tells the failures among them, how many succeeded, and
the system afterwards. -/
theorem performAll_eq (action : String → Action) (ids : List String) :
    performAll actions action ids state =
      (failuresOf ids (actions.askAll (ids.map action) state).1,
        (actions.askAll (ids.map action) state).1.countP (·.error.isNone),
        (actions.askAll (ids.map action) state).2) := by
  -- The first answer decides whether its id is a failure or counts, and nothing about the others.
  induction ids generalizing state with
  | nil => rfl
  | cons id rest ih =>
    cases answer : actions.perform (action id) state with
    | mk error next =>
      simp only [performAll, List.map_cons, Actions.askAll, answer, ih]
      cases error with
      | none => simp [failuresOf]
      | some error => simp [failuresOf]

/-- Acting on the selection makes one call for each selected device that has an id. -/
theorem bulk_eq (action : String → Action) :
    menu.bulk actions action state =
      (⟨0 < (actions.askAll (menu.selectedIds.map action) state).1.countP (·.error.isNone), none,
          failuresOf menu.selectedIds (actions.askAll (menu.selectedIds.map action) state).1⟩,
        (actions.askAll (menu.selectedIds.map action) state).2) := by
  -- The batch was seen to ask for the actions in turn.
  rw [bulk, performAll_eq]

/-- Recording the calls of a command leaves what comes of it. -/
theorem carryOut_recorded (command : Command) :
    menu.carryOut actions.recorded (record, state) command =
      ((menu.carryOut actions state command).1,
        record ++ (actions.askAll (menu.asksFor command) state).1,
        (menu.carryOut actions state command).2) := by
  -- What acts on the selection asks for each device, and all else asks at most once.
  cases node : menu.node with
  | none =>
    cases command <;>
      simp [carryOut, asksFor, node, bulk_eq, Actions.askAll_recorded, Actions.askAll, performOne,
        Actions.perform_recorded]
  | some number =>
    cases command with
    | properties =>
      cases target : propertiesTarget menu.snapshot number with
      | none => simp [carryOut, asksFor, node, target, Actions.askAll]
      | some id =>
        simp [carryOut, asksFor, node, target, Actions.askAll, performOne, Actions.perform_recorded]
    | _ =>
      simp [carryOut, asksFor, node, bulk_eq, Actions.askAll_recorded, Actions.askAll, performOne,
        Actions.perform_recorded]

end Performing

section OnEach

variable {menu : Menu} {command : Command} {action : String → Action}

/-- A command on the selection asks for its action on each selected device that has an id. -/
theorem asksFor_of_onEach (each : command.onEach? = some action) :
    menu.asksFor command = menu.selectedIds.map action := by
  -- Just the three commands on each device have such an action.
  cases command <;> cases each <;> rfl

/-- It is carried out as a batch. -/
theorem carryOut_of_onEach (each : command.onEach? = some action) (actions : Actions σ)
    (state : σ) : menu.carryOut actions state command = menu.bulk actions action state := by
  -- Just the three commands on each device have such an action.
  cases command <;> cases each <;> rfl

/-- It is permitted with elevated rights, where something is selected. -/
theorem permits_of_onEach (each : command.onEach? = some action) (elevated : Bool) :
    menu.permits elevated command = (elevated && !menu.selection.isEmpty) := by
  -- Just the three commands on each device have such an action.
  cases command <;> cases each <;> rfl

/-- No other command asks for a change of a device. -/
theorem exists_onEach {asked : Action} (member : asked ∈ menu.asksFor command)
    (changes : asked.changesDevice = true) : ∃ action, command.onEach? = some action := by
  -- All others ask for nothing, or for an action that leaves devices as they are.
  cases command with
  | enable => exact ⟨_, rfl⟩
  | disable => exact ⟨_, rfl⟩
  | restart => exact ⟨_, rfl⟩
  | uninstall => exact ⟨_, rfl⟩
  | copy =>
    rw [List.mem_singleton.mp member] at changes
    cases changes
  | refresh => cases member
  | toggle toggle => cases member
  | _ =>
    obtain ⟨subject, _, rfl⟩ := List.mem_map.mp member
    cases changes

end OnEach

/-- What comes of executing a command, when `calls` are the calls that were made. A command that is
not offered makes none, and nothing comes of it; any other makes those it asks for. Without elevated
rights no call changes a device. With them, a command on the selection makes one call for each
selected device that has an id, in the order of the selection and whatever was answered before; the
failures are those of these calls, in order, and a new tree is needed exactly if one succeeded. -/
structure Executed [Zone] (menu : Menu) (elevated : Bool) (command : Command) (calls : List Call)
    (outcome : Outcome) : Prop where
  declined : ¬ menu.Offers command → calls = [] ∧ outcome = .nothing
  asked : menu.Offers command → calls.map (·.action) = menu.asksFor command
  rights : elevated = false → ∀ call ∈ calls, call.action.changesDevice = false
  each : elevated = true → ∀ action, command.onEach? = some action →
    calls.map (·.action) = menu.selectedIds.map action ∧
    outcome.failures = failuresOf menu.selectedIds calls ∧
    (outcome.republish = true ↔ ∃ call ∈ calls, call.error = none)

section Executing

variable {menu : Menu} {elevated : Bool} {command : Command}

/-- A command that cannot be chosen does nothing. -/
theorem execute_of_disabled (disabled : menu.isEnabled command = false) (actions : Actions σ)
    (state : σ) : menu.execute actions state command = (.nothing, state) := by
  -- Whether it can be chosen is asked before anything is done.
  rw [execute, disabled, if_neg Bool.false_ne_true]

/-- A command that can be chosen is carried out. -/
theorem execute_of_enabled (enabled : menu.isEnabled command = true) (actions : Actions σ)
    (state : σ) : menu.execute actions state command = menu.carryOut actions state command :=
  if_pos enabled

/-- A command that cannot be chosen makes no call. -/
theorem executed_of_disabled
    (permitted : ∀ command, menu.isEnabled command = menu.permits elevated command)
    (disabled : menu.isEnabled command = false) :
    menu.Executed elevated command [] .nothing := by
  have notOffered : ¬ menu.Offers command := by
    rw [← isEnabled_iff_offers, disabled]
    exact Bool.false_ne_true
  refine ⟨fun _ => ⟨rfl, rfl⟩, fun offered => absurd offered notOffered, by simp, ?_⟩
  -- With elevated rights there is no one to act on.
  rintro rfl action each
  have none : menu.selection = [] := by
    rw [permitted, permits_of_onEach each] at disabled
    simpa using disabled
  simp [selectedIds, none, failuresOf, Outcome.nothing]

/-- A command that can be chosen makes the calls it asks for. -/
theorem executed_of_enabled
    (permitted : ∀ command, menu.isEnabled command = menu.permits elevated command)
    (enabled : menu.isEnabled command = true) (actions : Actions σ) (state : σ) :
    menu.Executed elevated command (actions.askAll (menu.asksFor command) state).1
      (menu.carryOut actions state command).1 := by
  refine ⟨fun notOffered => absurd (isEnabled_iff_offers.mp enabled) notOffered,
    fun _ => actions.map_action_askAll _ _, ?rights, ?each⟩
  case rights =>
    -- What changes a device is permitted with elevated rights only.
    rintro rfl call member
    have asked : call.action ∈ menu.asksFor command := by
      rw [← actions.map_action_askAll (menu.asksFor command) state]
      exact List.mem_map_of_mem member
    cases changes : call.action.changesDevice with
    | false => rfl
    | true =>
      obtain ⟨action, each⟩ := exists_onEach asked changes
      rw [permitted, permits_of_onEach each] at enabled
      cases enabled
  case each =>
    -- A batch is known by the calls it makes.
    rintro - action each
    rw [asksFor_of_onEach each, carryOut_of_onEach each, bulk_eq]
    exact ⟨actions.map_action_askAll _ _, rfl, by simp⟩

end Executing

/-- Executing a command of an opened menu makes the calls that are due and has the outcome that is
due. They are those on record when the calls are recorded, which changes neither the outcome nor the
system afterwards. -/
theorem onSnapshot_executed (snapshot : Snapshot) (node : Option Nat) (selection : List Nat)
    (columns : List PropertyClass) (column : Option PropertyClass) (preferences : Preferences)
    (elevated : Bool) (actions : Actions σ) (state : σ) (command : Command) :
    let menu := onSnapshot snapshot node selection columns column preferences elevated
    ∃ calls outcome next, menu.execute actions state command = (outcome, next) ∧
      menu.execute actions.recorded ([], state) command = (outcome, calls, next) ∧
      menu.Executed elevated command calls outcome := by
  intro menu
  -- The menu was opened by what it permits; only there do rights enter.
  have permitted : ∀ command, menu.isEnabled command = menu.permits elevated command :=
    isEnabled_onSnapshot snapshot node selection columns column preferences elevated
  cases enabled : menu.isEnabled command with
  | false =>
    exact ⟨[], .nothing, state, execute_of_disabled enabled actions state,
      execute_of_disabled enabled actions.recorded ([], state),
      executed_of_disabled permitted enabled⟩
  | true =>
    refine ⟨_, (menu.carryOut actions state command).1, (menu.carryOut actions state command).2,
      execute_of_enabled enabled actions state, ?_,
      executed_of_enabled permitted enabled actions state⟩
    rw [execute_of_enabled enabled, carryOut_recorded, List.nil_append]

end AnyZone

/-- Three devices, one of them without an id. -/
def trio : Inventory :=
  ((Inventory.empty.addRoot (Device.ofId "PC" false)).addChild 0 (Device.ofId "" false)).addChild 0
    (Device.ofId "PEN" false)

/-- The menu for the first of them, with all selected and elevated rights. -/
def trioMenu : Menu :=
  onSnapshot (.build ⟨1, trio⟩ (Preferences.standard.set .showDisconnected true)) (some 0) [0, 1, 2]
    [.name] none .standard true

/-- A system that refuses every second action. -/
def refusing : Actions Nat where
  perform _ asked := (if asked % 2 = 0 then none else some .accessDenied, asked + 1)

/-- Disabling them asks for the two that have an id, and the second is refused. -/
theorem onSnapshot_executed_refused : ∃ outcome next,
    trioMenu.execute refusing 0 .disable = (outcome, next) ∧
    outcome = ⟨true, none, [⟨"PEN", .accessDenied⟩]⟩ ∧ next = 2 ∧
    trioMenu.Executed true .disable
      [⟨.disable "PC", none⟩, ⟨.disable "PEN", some .accessDenied⟩] outcome := by
  obtain ⟨calls, outcome, next, executes, records, executed⟩ :=
    onSnapshot_executed (.build ⟨1, trio⟩ (Preferences.standard.set .showDisconnected true))
      (some 0) [0, 1, 2] [.name] none .standard true refusing 0 .disable
  -- The recorded run is computed, and what was proved of any run is told of it.
  have computed : trioMenu.execute refusing.recorded ([], 0) .disable =
      (⟨true, none, [⟨"PEN", .accessDenied⟩]⟩,
        [⟨.disable "PC", none⟩, ⟨.disable "PEN", some .accessDenied⟩], 2) := by decide +kernel
  cases computed.symm.trans records
  exact ⟨_, _, executes, rfl, rfl, executed⟩

end Menu

end DeviceBrowser

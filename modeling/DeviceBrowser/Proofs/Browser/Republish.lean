import Mathlib
import DeviceBrowser.Proofs.Browser.Selection
import DeviceBrowser.Proofs.Inventory.Dump
import DeviceBrowser.Proofs.Publication.Selection

/-! The same devices are published once more. The selection stays as it was where the nodes of one
checksum were selected alike; where they were not, all take it from some one of them. -/

namespace DeviceBrowser

namespace Snapshot

/-- A snapshot renews another one when they differ in the number of the edition at most. -/
structure Renews (next old : Snapshot) : Prop where
  inventory : next.edition.inventory = old.edition.inventory
  nodes : next.nodes = old.nodes
  roots : next.roots = old.roots

variable {next old : Snapshot}

/-- The number of an edition has no part in what is built of it. -/
theorem renews_build [Zone] {edition again : Edition} (same : again.inventory = edition.inventory)
    (preferences : Preferences) :
    (build again preferences).Renews (build edition preferences) := by
  -- The edition is handed on beside the nodes, none of which is made from its number.
  obtain ⟨number, inventory⟩ := edition
  obtain ⟨other, _⟩ := again
  cases same
  rw [build_eq, build_eq]
  exact ⟨rfl, rfl, rfl⟩

/-- Snapshots with the same lists are walked alike. -/
theorem walk_congr (children : next.children = old.children) (steps : Nat) (waiting : List Nat) :
    next.walk steps waiting = old.walk steps waiting := by
  -- A walk reads nothing else.
  induction steps generalizing waiting with
  | zero => rfl
  | succ steps ih =>
    cases waiting with
    | nil => rfl
    | cons number rest => rw [walk, walk, children, ih]

/-- A renewed snapshot has the same checksums, and is matched, sorted and gone through alike. -/
theorem Renews.same [Zone] (renews : next.Renews old) :
    next.hash? = old.hash? ∧ next.matching = old.matching ∧ next.sorted = old.sorted ∧
      next.treeOrder = old.treeOrder := by
  -- None of them reads the number of the edition.
  obtain ⟨⟨number, inventory⟩, nodes, roots⟩ := next
  obtain ⟨⟨other, _⟩, _, _⟩ := old
  cases renews.inventory
  cases renews.nodes
  cases renews.roots
  exact ⟨rfl, rfl, rfl, walk_congr (by rfl) _ _⟩

end Snapshot

namespace Browser

section AnyZone

variable {zone : Zone}

variable {text : String} {browser : Browser} {old next : Snapshot}

/-- A sound browser has nothing selected but nodes on display. -/
theorem Sound.isSelected_eq_false (sound : Sound text browser) {number : Nat}
    (absent : browser.stage.hash? number = none) : browser.isSelected number = false := by
  -- There is no state without a node.
  cases active : browser.stage.active with
  | none => simp [isSelected, active]
  | some published =>
    have beyond : published.snapshot.size ≤ number := by
      simpa [Stage.hash?, Stage.snapshot?, active, Snapshot.hash?, Snapshot.node?,
        Snapshot.size] using absent
    rw [← sound.size published active] at beyond
    simp [isSelected, active, Published.isSelected, Array.getElem?_eq_none beyond]

/-- Nodes of one checksum are selected alike. -/
def Alike (browser : Browser) : Prop :=
  ∀ left right, browser.stage.hash? left = browser.stage.hash? right →
    browser.isSelected left = browser.isSelected right

/-- What becomes of the selection when the same devices are published once more. Nodes of one
checksum are selected alike afterwards, as some one of them was. So a node stays as it was if all
nodes of its checksum were selected alike; and all do exactly if that holds of every checksum, and
then the selection is listed as before. -/
structure Republishes (before after : Browser) : Prop where
  hash : ∀ number, after.stage.hash? number = before.stage.hash? number
  keeper : ∀ hash number, before.stage.hash? number = some hash →
    ∃ keeper, before.stage.hash? keeper = some hash ∧
      ∀ other, before.stage.hash? other = some hash →
        after.isSelected other = before.isSelected keeper
  kept : ∀ number,
    (∀ other, before.stage.hash? other = before.stage.hash? number →
      before.isSelected other = before.isSelected number) →
        after.isSelected number = before.isSelected number
  alike : after.Alike
  kept_iff : (∀ number, after.isSelected number = before.isSelected number) ↔ before.Alike
  selection : before.Alike → after.selection = before.selection

/-- A browser that displays a snapshot has its checksums. -/
theorem hash?_of_displayed (displayed : browser.snapshot? = some old) (number : Nat) :
    browser.stage.hash? number = old.hash? number := by
  -- The stage asks the snapshot that is on display.
  have onStage : browser.stage.snapshot? = some old := displayed
  rw [Stage.hash?, onStage, Option.bind_some]

section Republishing

variable (sound : Sound text browser) (displayed : browser.snapshot? = some old)
  (renews : next.Renews old) (built : next.Built) (now : FileTime)

include displayed renews in
/-- Nodes keep their checksums. -/
theorem hash?_republish [Zone] (number : Nat) :
    (browser.publish next now).1.stage.hash? number = browser.stage.hash? number := by
  -- The snapshot that comes on renews the one that was there.
  have later := hash?_of_displayed (browser.snapshot?_publish next now) number
  rw [later, hash?_of_displayed displayed, renews.same.1]

include sound displayed renews built in
/-- Nodes keep their order. -/
theorem order_republish : (browser.publish next now).1.order = browser.order := by
  -- The sorting is the same, and either sorts or walks the same nodes.
  have after := browser.snapshot?_publish next now
  have sorting := (listing_publish browser next now).1
  obtain ⟨_, _, sorted, treeOrder⟩ := renews.same
  simp only [order, after, displayed, Listing.isFlat, sorting, sorted, treeOrder,
    (sound.publish built now).sorted_eq after, sound.sorted_eq displayed]

include sound displayed renews built in
/-- Nodes stay visible or hidden. -/
theorem isVisible_republish (number : Nat) :
    (browser.publish next now).1.isVisible number = browser.isVisible number := by
  -- The search and the columns are the same, and match the same nodes.
  obtain ⟨_, search, columns⟩ := listing_publish browser next now
  have same : marks (browser.publish next now).1.listing next = marks browser.listing old := by
    rw [marks, marks, search, columns, renews.same.2.1]
  rw [Bool.eq_iff_iff, (sound.publish built now).isVisible_iff (browser.snapshot?_publish next now),
    sound.isVisible_iff displayed, same]

include sound displayed renews in
/-- Of the nodes of a checksum there is one whose selection all of them take up. -/
theorem exists_keeper {hash : UInt32} {number : Nat}
    (present : browser.stage.hash? number = some hash) :
    ∃ keeper, browser.stage.hash? keeper = some hash ∧
      ∀ other, browser.stage.hash? other = some hash →
        (browser.publish next now).1.isSelected other = browser.isSelected keeper := by
  -- It is the one that is found when the checksum is looked up in the nodes that were on display.
  simp only [hash?_of_displayed displayed] at present ⊢
  obtain ⟨published, active, rfl⟩ := Option.map_eq_some_iff.mp displayed
  have finds := (sound.built _ displayed).finds hash
  obtain ⟨keeper, found⟩ := Option.isSome_iff_exists.mp (finds.isSome_iff.mpr ⟨number, present⟩)
  refine ⟨keeper, finds.sound keeper found, ?_⟩
  intro other otherHas
  have still : next.hash? other = some hash := by rw [renews.same.1, otherHas]
  have carried := Stage.isSelected_publish active still browser.preferences now
  rw [Stage.holdsSelected_of_lookup found] at carried
  rw [publish, isSelected_refilter]
  refine Eq.trans (b := published.isSelected keeper) carried ?_
  simp [isSelected, active]

include sound displayed renews built in
/-- A node stays as it was if the nodes of its checksum were selected alike. -/
theorem kept_republish {number : Nat}
    (alike : ∀ other, browser.stage.hash? other = browser.stage.hash? number →
      browser.isSelected other = browser.isSelected number) :
    (browser.publish next now).1.isSelected number = browser.isSelected number := by
  cases present : browser.stage.hash? number with
  | none =>
    -- A number without a checksum is that of no node, and never selected.
    have still := (hash?_republish displayed renews now number).trans present
    rw [(sound.publish built now).isSelected_eq_false still, sound.isSelected_eq_false present]
  | some hash =>
    obtain ⟨keeper, has, takes⟩ := exists_keeper sound displayed renews now present
    rw [takes number present]
    exact alike keeper (has.trans present.symm)

include sound displayed renews built in
/-- Nodes of one checksum are selected alike afterwards. -/
theorem alike_republish : (browser.publish next now).1.Alike := by
  intro left right same
  have after := sound.publish built now
  cases still : (browser.publish next now).1.stage.hash? left with
  | none =>
    rw [after.isSelected_eq_false still, after.isSelected_eq_false (same.symm.trans still)]
  | some hash =>
    -- Both take up the selection of the same node.
    have leftHas := (hash?_republish displayed renews now left).symm.trans still
    have rightHas :=
      (hash?_republish displayed renews now right).symm.trans (same.symm.trans still)
    obtain ⟨keeper, _, takes⟩ := exists_keeper sound displayed renews now leftHas
    rw [takes left leftHas, takes right rightHas]

include sound displayed renews built in
/-- Publishing the same devices once more keeps the selection of a sound browser, or spreads it. -/
theorem Sound.republish : Republishes browser (browser.publish next now).1 := by
  have hash := hash?_republish displayed renews now
  have spread := alike_republish sound displayed renews built now
  have keptAll : browser.Alike →
      (browser.publish next now).1.isSelected = browser.isSelected := by
    intro alike
    funext number
    apply kept_republish sound displayed renews built now
    intro other same
    exact alike other number same
  refine ⟨hash, ?_, ?_, spread, ⟨?_, ?_⟩, ?_⟩
  · intro hash number present
    exact exists_keeper sound displayed renews now present
  · intro number alike
    exact kept_republish sound displayed renews built now alike
  · -- Afterwards nodes of one checksum are alike, and so they were if none has changed.
    intro same left right one
    have after : (browser.publish next now).1.stage.hash? left =
        (browser.publish next now).1.stage.hash? right := by rw [hash, hash, one]
    rw [← same left, ← same right]
    exact spread left right after
  · intro alike number
    rw [keptAll alike]
  · intro alike
    -- Visibility and order stay whatever was selected, so that the selection is read off in one
    -- order.
    have visible := funext (isVisible_republish sound displayed renews built now)
    have order := order_republish sound displayed renews built now
    rw [selection_eq, selection_eq, order, visible, keptAll alike]

end Republishing

/-- Selects nodes or takes them out of the selection, one after the other. -/
def choose (browser : Browser) (choices : List (Nat × Bool)) : Browser :=
  choices.foldl (fun chosen choice => chosen.select choice.1 choice.2) browser

/-- Choosing nodes leaves the snapshot on display, and is among the operations of a browser. -/
theorem Viewed.choose (viewed : Viewed text browser) (choices : List (Nat × Bool)) :
    Viewed text (browser.choose choices) ∧
      (browser.choose choices).snapshot? = browser.snapshot? := by
  -- The nodes are selected or not, one after the other.
  induction choices generalizing browser with
  | nil => exact ⟨viewed, rfl⟩
  | cons choice rest ih =>
    obtain ⟨chosen, same⟩ := ih (viewed.select choice.1 choice.2)
    exact ⟨chosen, same.trans (browser.snapshot?_select choice.1 choice.2)⟩

/-- Whatever nodes of a dump are chosen, under any preferences, publishing the dump once more keeps
the selection of nodes of one checksum that were selected alike, and makes the others alike. -/
theorem republishes_of_load {file : DumpFile} {edition again : Edition}
    (loaded : file.load = .ok edition.inventory) (same : again.inventory = edition.inventory)
    (preferences : Preferences) (viewed : Viewed text browser) (choices : List (Nat × Bool))
    (first second : FileTime) :
    let shown := (browser.publish (.build edition preferences) first).1.choose choices
    Republishes shown (shown.publish (.build again preferences) second).1 := by
  -- A dump that was loaded fills a grown inventory, and operations led the browser to where it is.
  obtain ⟨dump, isDump⟩ := DumpFile.exists_dump_of_load loaded
  have grown : edition.inventory.Grown := by
    rw [isDump]
    exact dump.grown_inventory.1
  have published := viewed.publish (Snapshot.built_build grown preferences) first
  obtain ⟨chosen, displayed⟩ := published.choose choices
  rw [snapshot?_publish] at displayed
  exact chosen.sound.republish displayed (Snapshot.renews_build same preferences)
    (Snapshot.built_build (same ▸ grown) preferences) second

end AnyZone

/-- The document of a dump: a device with two devices of one id below it. -/
def twinsDocument : String :=
  "\x7b\"instance_id\":\"PC\",\"children\":[" ++
    "\x7b\"instance_id\":\"PEN\"\x7d,\x7b\"instance_id\":\"PEN\"\x7d]\x7d"

/-- The devices of this dump. -/
def twins : Dump :=
  .node "PC" false (fun _ => none)
    [.node "PEN" false (fun _ => none) [], .node "PEN" false (fun _ => none) []]

/-- A file with this document holds these devices. -/
theorem load_twins : (DumpFile.file twinsDocument.toUTF8 0).load = .ok twins.inventory := by
  -- The document is parsed step by step.
  have read : Dump.read? twinsDocument = some twins := by cbv
  exact DumpFile.load_eq_ok read 0

/-- The preferences under which they are shown, although none is connected. -/
def showingAll : Preferences := Preferences.standard.set .showDisconnected true

/-- An edition of the twins, as it is shown. -/
def twinsSnapshot (number : Nat) : Snapshot := .build ⟨number, twins.inventory⟩ showingAll

/-- It is built of a grown inventory. -/
theorem built_twinsSnapshot (number : Nat) : (twinsSnapshot number).Built :=
  -- The inventory of a dump has grown.
  Snapshot.built_build twins.grown_inventory.1 showingAll

/-- All of them show the same devices. -/
theorem renews_twinsSnapshot (number other : Nat) :
    (twinsSnapshot number).Renews (twinsSnapshot other) := by
  -- They differ in the edition's number alone.
  have same : (Edition.mk number twins.inventory).inventory =
      (Edition.mk other twins.inventory).inventory := rfl
  exact Snapshot.renews_build same showingAll

/-- The browser that displays the twins with some of the nodes chosen. -/
def twinsChosen (choices : List (Nat × Bool)) : Browser :=
  ((start showingAll .standard .standard false).publish (twinsSnapshot 1) default).1.choose choices

/-- The same devices published over it once more. -/
def twinsRepublished (choices : List (Nat × Bool)) : Browser :=
  ((twinsChosen choices).publish (twinsSnapshot 2) default).1

/-- With both twins selected, and the device above them not, all stay as they were. -/
theorem republishes_twins :
    (DumpFile.file twinsDocument.toUTF8 0).load = .ok twins.inventory ∧
    (twinsRepublished [(1, true), (2, true)]).selection = [1, 2] ∧
    Republishes (twinsChosen [(1, true), (2, true)])
      (twinsRepublished [(1, true), (2, true)]) := by
  have viewed := Viewed.start showingAll .standard .standard false
  have same : (Edition.mk 2 twins.inventory).inventory = (Edition.mk 1 twins.inventory).inventory :=
    rfl
  -- Both nodes of the checksum are selected, so whichever is found passes that on.
  have republishes := republishes_of_load load_twins same showingAll viewed [(1, true), (2, true)]
    default default
  exact ⟨load_twins, by decide +kernel, republishes⟩

/-- With one of the twins selected and the other one not, the selection does not stay as it was when
the same devices are published once more. -/
theorem selection_not_kept :
    (DumpFile.file twinsDocument.toUTF8 0).load = .ok twins.inventory ∧
    ¬ (∀ number, (twinsRepublished [(2, true)]).isSelected number =
      (twinsChosen [(2, true)]).isSelected number) ∧
    (twinsChosen [(2, true)]).selection = [2] ∧
    (twinsRepublished [(2, true)]).selection ≠ [2] := by
  have published := (Viewed.start showingAll .standard .standard false).publish
    (built_twinsSnapshot 1) default
  obtain ⟨chosen, displayed⟩ := published.choose [(2, true)]
  rw [snapshot?_publish] at displayed
  have republishes := chosen.sound.republish displayed (renews_twinsSnapshot 2 1)
    (built_twinsSnapshot 2) default
  refine ⟨load_twins, ?_, by decide +kernel, by decide +kernel⟩
  -- Whichever of them is found, nodes of one checksum would have been selected alike before.
  intro kept
  have alike : (twinsChosen [(2, true)]).Alike := republishes.kept_iff.mp kept
  have differ :
      (twinsChosen [(2, true)]).isSelected 1 ≠ (twinsChosen [(2, true)]).isSelected 2 := by
    decide +kernel
  exact differ (alike 1 2 (by decide +kernel))

end Browser

end DeviceBrowser

import DeviceBrowser.Proofs.Browser.Rows
import DeviceBrowser.Proofs.Inventory.Tagged
import DeviceBrowser.Proofs.Snapshot.Correspondence
import DeviceBrowser.Proofs.Text.Case

/-! The case of the letters in instance ids does not matter. Inventories made by the same additions
of devices whose ids have the same letters have the same checksums and the same snapshots, so that
what is kept by checksum is kept alike. -/

namespace DeviceBrowser

open Text (SameLetters)

namespace Device

/-- Devices made from ids with the same letters, on which the same values were set. -/
inductive Recased : Device → Device → Prop
  | ofId {left right : String} (same : SameLetters left right) (isInterface : Bool) :
      Recased (.ofId left isInterface) (.ofId right isInterface)
  | set {left right : Device} (recased : Recased left right) (cls : PropertyClass)
      (value : Value) : Recased (left.set cls value) (right.set cls value)

section Recased

variable {left right : Device}

/-- Their ids have the same letters. -/
theorem Recased.id (recased : Recased left right) : SameLetters left.id right.id := by
  -- A value that is set leaves the id.
  induction recased with
  | ofId same _ => exact same
  | set _ _ _ ih => exact ih

/-- Both are interfaces or none is. -/
theorem Recased.isInterface (recased : Recased left right) :
    left.isInterface = right.isInterface := by
  -- Setting a property does not make a device an interface.
  induction recased with
  | ofId _ _ => rfl
  | set _ _ _ ih => exact ih

/-- They differ in no property but the id. -/
theorem Recased.property (recased : Recased left right) {cls : PropertyClass}
    (other : cls ≠ .instanceId) : left.property cls = right.property cls := by
  -- At first the id is the only value, and later ones are set on both.
  have values : left.values cls = right.values cls := by
    induction recased with
    | ofId _ _ => simp [Device.ofId, other]
    | set _ _ _ ih => rw [values_set, values_set, ih]
  rw [Device.property, Device.property, values]

/-- They have the same checksum. -/
theorem Recased.hash (recased : Recased left right) : left.hash = right.hash := by
  -- The checksum is taken of the id in upper case, where the two agree.
  rw [Device.hash, Device.hash, idHash, idHash, recased.id.upperChars_eq]

/-- They have the same name but for its case. -/
theorem Recased.lowerChars_name [Zone] (recased : Recased left right) :
    Text.lowerChars left.name.toList = Text.lowerChars right.name.toList := by
  -- A name is the text of another property, or the id.
  have texts : (nameClasses.map fun cls => (left.property cls).text) =
      nameClasses.map fun cls => (right.property cls).text := by
    apply List.map_congr_left
    intro cls member
    have other : cls ≠ .instanceId := by
      rintro rfl
      revert member
      decide
    rw [recased.property other]
  rw [name, name, texts]
  cases (nameClasses.map fun cls => (right.property cls).text).find? fun text => !text.isEmpty with
  | none => exact recased.id.lowerChars_eq
  | some text => rfl

/-- Both are shown or none is. -/
theorem Recased.includes (recased : Recased left right) (preferences : Preferences) :
    preferences.includes left = preferences.includes right := by
  -- What is shown is told by other properties than the id.
  simp only [Preferences.includes, recased.isInterface, interfaceEnabled, isSoftwareComponent,
    classGuid, isPresent, recased.property (show PropertyClass.interfaceEnabled ≠ _ by decide),
    recased.property (show PropertyClass.classGuid ≠ _ by decide),
    recased.property (show PropertyClass.isPresent ≠ _ by decide)]

end Recased

end Device

namespace Inventory

/-- Inventories made by the same additions of recased devices. -/
inductive Recased : Inventory → Inventory → Prop
  | empty : Recased .empty .empty
  | addRoot {left right : Inventory} (recased : Recased left right) {device other : Device}
      (recasedDevice : device.Recased other) : Recased (left.addRoot device) (right.addRoot other)
  | addChild {left right : Inventory} (recased : Recased left right) {parent : Nat}
      (present : parent < left.size) {device other : Device}
      (recasedDevice : device.Recased other) :
      Recased (left.addChild parent device) (right.addChild parent other)

section Recased

variable {left right : Inventory}

/-- They have as many devices. -/
theorem Recased.size_eq (recased : Recased left right) : left.size = right.size := by
  -- Each addition adds one device to both.
  induction recased with
  | empty => rfl
  | addRoot _ _ ih => rw [size_addRoot, size_addRoot, ih]
  | addChild _ _ _ ih => rw [size_addChild, size_addChild, ih]

/-- Both grew by devices that were added one after the other. -/
theorem Recased.grown (recased : Recased left right) : left.Grown ∧ right.Grown := by
  -- By induction on the additions, which come in pairs.
  induction recased with
  | empty => exact ⟨.empty, .empty⟩
  | addRoot _ _ ih => exact ⟨ih.1.addRoot _, ih.2.addRoot _⟩
  | addChild recased present _ ih =>
    exact ⟨ih.1.addChild present _, ih.2.addChild (recased.size_eq ▸ present) _⟩

/-- They have one root. -/
theorem Recased.root_eq (recased : Recased left right) : left.root = right.root := by
  -- A new root goes to the end of both, which have the same size.
  induction recased with
  | empty => rfl
  | addRoot recased _ _ => exact congrArg some recased.size_eq
  | addChild _ _ _ ih => exact ih

/-- Their devices have the same parents. -/
theorem Recased.parent?_eq (recased : Recased left right) (position : Nat) :
    left.parent? position = right.parent? position := by
  -- A new child goes to the end of both, below the same parent.
  induction recased with
  | empty => rfl
  | addRoot _ _ ih => rw [parent?_addRoot, parent?_addRoot, ih]
  | addChild recased _ _ ih => rw [parent?_addChild, parent?_addChild, ih, recased.size_eq]

/-- Their devices have the same children. -/
theorem Recased.children_eq (recased : Recased left right) (position : Nat) :
    left.children position = right.children position := by
  -- However they are linked, children are the devices with that parent in the order added.
  rw [recased.grown.1.linked.children_eq, recased.grown.2.linked.children_eq, offspring, offspring,
    recased.size_eq]
  simp only [recased.parent?_eq]

/-- Their devices are recased position by position. -/
theorem Recased.device (recased : Recased left right) (position : Nat) :
    Option.Rel Device.Recased (left.device? position) (right.device? position) := by
  -- A position holds the device added last, or one that was there before.
  induction recased with
  | empty => exact .none
  | addRoot recased new ih =>
    rw [device?_addRoot, device?_addRoot, recased.size_eq]
    split
    · exact .some new
    · exact ih
  | addChild recased _ new ih =>
    rw [device?_addChild, device?_addChild, recased.size_eq]
    split
    · exact .some new
    · exact ih

/-- They correspond position by position. -/
theorem Recased.correspond [Zone] (recased : Recased left right) (preferences : Preferences) :
    Inventory.Correspond Eq preferences left right where
  -- Devices at one position are recased, and building asks nothing of them that the case decides.
  hash := by
    rintro position _ rfl
    rw [Snapshot.hashAt_eq, Snapshot.hashAt_eq,
      map_eq_of_rel (recased.device position) fun same => same.hash]
  name := by
    rintro position _ rfl
    rw [Snapshot.lowerChars_nameAt, Snapshot.lowerChars_nameAt,
      map_eq_of_rel (recased.device position) fun same => same.lowerChars_name]
  shows := by
    rintro position _ rfl
    rw [Snapshot.shows_eq, Snapshot.shows_eq,
      map_eq_of_rel (recased.device position) fun same => same.includes preferences]
  children := by
    rintro position _ rfl
    -- The links do not depend on the devices, so that both have the same children and root.
    rw [recased.children_eq]
    exact List.forall₂_refl _
  root := by
    rw [recased.root_eq]
    cases right.root with
    | none => exact .none
    | some root => exact .some rfl

end Recased

end Inventory

namespace Browser

/-- The browser with nodes on display in given states. -/
def showing (browser : Browser) (published : Published) : Browser :=
  { browser with stage := { browser.stage with active := some published } }

end Browser

namespace Snapshot

/-- Two snapshots are taken for the same devices: they have the same nodes and roots, a checksum
leads to the same node, the selection is carried over to each alike and from each alike, and the
rows of the table are the same whatever devices are collapsed. -/
structure SameDevices (left right : Snapshot) : Prop where
  nodes : left.nodes = right.nodes
  roots : left.roots = right.roots
  lookup : ∀ hash, left.lookup hash = right.lookup hash
  carriedTo : ∀ (stage : Stage) preferences now,
    (stage.publish left preferences now).1.active.map (·.states) =
      (stage.publish right preferences now).1.active.map (·.states)
  carriedFrom : ∀ states highlights next preferences now,
    Stage.publish ⟨some ⟨left, states⟩, highlights⟩ next preferences now =
      Stage.publish ⟨some ⟨right, states⟩, highlights⟩ next preferences now
  rows : ∀ (browser : Browser) states collapsed,
    (browser.showing ⟨left, states⟩).rows collapsed =
      (browser.showing ⟨right, states⟩).rows collapsed

/-- Snapshots with the same nodes and roots are taken for the same devices. -/
theorem sameDevices {left right : Snapshot} (nodes : left.nodes = right.nodes)
    (roots : left.roots = right.roots) : left.SameDevices right := by
  -- Nothing of this looks at the edition behind a snapshot.
  obtain ⟨edition, leftNodes, leftRoots⟩ := left
  obtain ⟨other, rightNodes, rightRoots⟩ := right
  cases nodes
  cases roots
  refine ⟨rfl, rfl, fun _ => rfl, ?_, ?_, ?_⟩
  · intro stage preferences now
    cases active : stage.active <;> simp only [Stage.publish, active] <;> rfl
  · intro states highlights next preferences now
    rfl
  · intro browser states collapsed
    apply Browser.rows_congr <;> intros <;> rfl

/-- Inventories made by the same additions, of devices whose ids differ in the case of ASCII letters
only, have the same checksum at each position, and under the same preferences their snapshots have
the same nodes and are taken for the same devices. -/
theorem build_recased [Zone] {left right : Edition}
    (recased : left.inventory.Recased right.inventory)
    (preferences : Preferences) :
    (∀ position, (left.inventory.device? position).map (·.hash) =
      (right.inventory.device? position).map (·.hash)) ∧
    (build left preferences).SameDevices (build right preferences) := by
  -- Building sees the ids through their checksums and the lower case of names only.
  obtain ⟨leftGrown, rightGrown⟩ := recased.grown
  obtain ⟨nodes, roots⟩ :=
    build_correspond (recased.correspond preferences) leftGrown.linked rightGrown.linked
  refine ⟨fun position => map_eq_of_rel (recased.device position) fun same => same.hash,
    sameDevices ?_ roots⟩
  -- Nodes that correspond at equal positions are equal.
  rw [← Array.toList_inj, ← List.forall₂_eq_eq_eq]
  refine nodes.imp ?_
  rintro ⟨⟩ ⟨⟩ ⟨position, hash, parent, children⟩
  cases position
  cases hash
  cases parent
  cases children
  rfl

/-- A connected hub with a connected pad below it. -/
def hubAndPad (hub pad : String) : Inventory :=
  ((Inventory.empty.addRoot (.connected "PC")).addChild 0 (.connected hub)).addChild 1
    (.connected pad)

/-- A hub and a pad whose ids come in another case are taken for the same devices. -/
theorem build_recased_hub :
    (hubAndPad "usb hub à" "Pad").Recased (hubAndPad "USB Hub à" "PAD") ∧
    (build ⟨1, hubAndPad "usb hub à" "Pad"⟩ .standard).size = 3 ∧
    (∀ position, ((hubAndPad "usb hub à" "Pad").device? position).map (·.hash) =
      ((hubAndPad "USB Hub à" "PAD").device? position).map (·.hash)) ∧
    (build ⟨1, hubAndPad "usb hub à" "Pad"⟩ .standard).SameDevices
      (build ⟨2, hubAndPad "USB Hub à" "PAD"⟩ .standard) := by
  -- Devices differ in their ids alone, which have the same letters.
  have connected : ∀ {left right : String}, SameLetters left right →
      Device.Recased (.connected left) (.connected right) :=
    fun same => .set (.ofId same false) _ _
  have recased : (hubAndPad "usb hub à" "Pad").Recased (hubAndPad "USB Hub à" "PAD") :=
    .addChild (.addChild (.addRoot .empty (connected rfl)) (by decide)
      (connected (by decide))) (by decide) (connected (by decide))
  exact ⟨recased, by decide +kernel,
    @build_recased _ ⟨1, hubAndPad "usb hub à" "Pad"⟩ ⟨2, hubAndPad "USB Hub à" "PAD"⟩ recased
      .standard⟩

end Snapshot

end DeviceBrowser

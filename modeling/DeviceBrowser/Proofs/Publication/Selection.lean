import DeviceBrowser.Proofs.Publication.Run

/-! A publication carries the selection over by checksum: whatever was selected before, and however
many nodes share a checksum. -/

namespace DeviceBrowser.Stage

/-- What a publication carries over from a stage. There is one state for each node, and the report
counts the selected ones. No node is selected unless one of its checksum was before; where one node
alone had the checksum, its selection decides. Nothing is selected by the first publication, nor
where the checksum was not on display before. -/
structure Carries (before : Stage) (next : Snapshot) (after : Stage × PublishReport) : Prop where
  displayed : ∃ published, after.1.active = some published ∧ published.snapshot = next ∧
    published.states.size = next.size
  selected_before : ∀ number hash, next.hash? number = some hash →
    after.1.isSelected number = true →
      ∃ old, before.hash? old = some hash ∧ before.isSelected old = true
  unique : ∀ number hash old, next.hash? number = some hash → before.hash? old = some hash →
    (∀ other, before.hash? other = some hash → other = old) →
      after.1.isSelected number = before.isSelected old
  first : before.active = none → ∀ number, after.1.isSelected number = false
  carried : after.2.carried = (List.range next.size).countP after.1.isSelected
  returned : ∀ number hash, next.hash? number = some hash →
    (∀ old, before.hash? old ≠ some hash) → after.1.isSelected number = false

section Carrying

variable {old : Published} {next : Snapshot}

/-- A node is selected in its new state if the node is that is found by its checksum. -/
theorem isSelected_carriedStates {number : Nat} {hash : UInt32}
    (present : next.hash? number = some hash) :
    (Published.mk next (carriedStates old next)).isSelected number = old.holdsSelected hash := by
  -- The new states are made node by node, each from its checksum.
  obtain ⟨node, found, rfl⟩ := Option.map_eq_some_iff.mp present
  have state : (carriedStates old next)[number]? =
      some { NodeState.fresh with selected := old.holdsSelected node.hash } := by
    rw [carriedStates, Array.getElem?_map, show next.nodes[number]? = some node from found]
    rfl
  simp only [Published.isSelected, state]

/-- A selected checksum is that of a selected node. -/
theorem exists_of_holdsSelected {hash : UInt32} (selected : old.holdsSelected hash = true) :
    ∃ number, old.snapshot.hash? number = some hash ∧ old.isSelected number = true := by
  -- It was looked up, and what was found has the checksum and is selected.
  simp only [Published.holdsSelected] at selected
  split at selected
  · rename_i number found
    exact ⟨number, Snapshot.hash?_of_lookup found, selected⟩
  · cases selected

/-- A checksum is selected exactly if the node is that is found by it. -/
theorem holdsSelected_of_lookup {hash : UInt32} {number : Nat}
    (found : old.snapshot.lookup hash = some number) :
    old.holdsSelected hash = old.isSelected number := by
  -- What is looked up is what decides.
  simp only [Published.holdsSelected, found]

/-- Counting selected states is counting the numbers of selected nodes. -/
theorem countP_selected (published : Published)
    (size : published.states.size = published.snapshot.size) :
    published.states.countP (·.selected) =
      (List.range published.snapshot.size).countP published.isSelected := by
  -- The states are those at the numbers in turn.
  have listed : published.states.toList =
      (List.range published.snapshot.size).map fun number =>
        published.states[number]?.getD .fresh := by
    apply List.ext_getElem
    · simp [size]
    · intro number within _
      have present : number < published.states.size := by simpa using within
      simp [present]
  rw [← Array.countP_toList, listed, List.countP_map]
  apply List.countP_congr
  intro number within
  have present : number < published.states.size := by
    rw [size]
    exact List.mem_range.mp within
  simp [Published.isSelected, present]

end Carrying

section Publishing

variable {stage : Stage}

/-- After a later publication a node is selected exactly if its checksum was. -/
theorem isSelected_publish {old : Published} (active : stage.active = some old) {next : Snapshot}
    {number : Nat} {hash : UInt32} (present : next.hash? number = some hash)
    (preferences : Preferences) (now : FileTime) :
    (stage.publish next preferences now).1.isSelected number = old.holdsSelected hash := by
  -- On a lit stage the states are carried over.
  rw [← isSelected_carriedStates present]
  simp [publish, active, isSelected]

/-- The first publication has nothing to carry over. -/
theorem carries_first (dark : stage.active = none) (next : Snapshot) (preferences : Preferences)
    (now : FileTime) : stage.Carries next (stage.publish next preferences now) := by
  -- All its states are fresh, and there is no checksum on display before.
  have fresh : ∀ number, (stage.publish next preferences now).1.isSelected number = false := by
    intro number
    simp only [publish, dark, isSelected, Option.any_some, Published.isSelected]
    cases found : (Array.replicate next.size NodeState.fresh)[number]? with
    | none => rfl
    | some state =>
      obtain ⟨within, rfl⟩ := Array.getElem?_eq_some_iff.mp found
      simp [NodeState.fresh]
  have nothing : ∀ number, stage.hash? number = none := by
    intro number
    simp [hash?, snapshot?, dark]
  constructor
  · exact ⟨⟨next, Array.replicate next.size .fresh⟩, by simp [publish, dark], rfl, by simp⟩
  · intro number hash present selected
    rw [fresh] at selected
    cases selected
  · intro number hash old present before
    rw [nothing] at before
    cases before
  · exact fun _ => fresh
  · -- No state is selected, as the count of selected ones says.
    rw [List.countP_eq_zero.mpr (by simp [fresh])]
    simp [publish, dark]
  · exact fun number _ _ _ => fresh number

/-- A later publication carries over from what is on display. -/
theorem carries_later [Zone] {old : Published} (active : stage.active = some old)
    (built : old.snapshot.Built) (next : Snapshot) (preferences : Preferences) (now : FileTime) :
    stage.Carries next (stage.publish next preferences now) := by
  -- Each clause is read off the states that are carried over; that a single node of a checksum is
  -- found takes a built snapshot.
  have size : (carriedStates old next).size = next.size := Array.size_map
  have hash_eq : ∀ number, stage.hash? number = old.snapshot.hash? number := by
    intro number
    simp [hash?, snapshot?, active]
  have selected_eq : ∀ number, stage.isSelected number = old.isSelected number := by
    intro number
    simp [isSelected, active]
  constructor
  · exact ⟨⟨next, carriedStates old next⟩, by simp [publish, active], rfl, size⟩
  · intro number hash present selected
    rw [isSelected_publish active present] at selected
    obtain ⟨number, has, isSelected⟩ := exists_of_holdsSelected selected
    exact ⟨number, (hash_eq number).trans has, (selected_eq number).trans isSelected⟩
  · intro number hash before present has unique
    simp only [hash_eq] at has unique
    have found := (built.finds hash).unique before has unique
    rw [isSelected_publish active present, selected_eq, holdsSelected_of_lookup found]
  · intro none
    rw [active] at none
    cases none
  · have carried : (stage.publish next preferences now).1.isSelected =
        (Published.mk next (carriedStates old next)).isSelected := by
      funext number
      simp [publish, active, isSelected]
    rw [carried, ← countP_selected ⟨next, carriedStates old next⟩ size]
    simp [publish, active]
  · intro number hash present absent
    rw [isSelected_publish active present, Bool.eq_false_iff]
    intro selected
    obtain ⟨number, has, _⟩ := exists_of_holdsSelected selected
    exact absent number ((hash_eq number).trans has)

end Publishing

/-- After any events, with nodes in whatever states, a publication carries the selection over. -/
theorem carries_publish [Zone] {events : List Event} (built : ∀ event ∈ events, event.Built)
    (next : Snapshot) (preferences : Preferences) (now : FileTime) :
    (ofEvents events).Carries next ((ofEvents events).publish next preferences now) := by
  -- A stage is dark, or a built snapshot is on display.
  cases active : (ofEvents events).active with
  | none => exact carries_first active next preferences now
  | some old =>
    have displayed : (ofEvents events).snapshot? = some old.snapshot := by simp [snapshot?, active]
    exact carries_later active (built_ofEvents built displayed) next preferences now

/-- Four devices come on display, and two of them are selected. -/
def hubSelected : List Event :=
  [.publish (.build ⟨1, Snapshot.hub⟩ (Preferences.standard.set .showDisconnected true)) .standard
    default,
    .write fun number state => { state with selected := number = 0 || number = 2 }]

/-- The snapshot of what is left when one of these is gone. -/
def hublessBuilt : Snapshot :=
  .build ⟨2, Snapshot.hubless⟩ (Preferences.standard.set .showDisconnected true)

/-- Of two selected devices one is gone, and the other one is selected under a new number. -/
theorem carries_hublessBuilt :
    (∀ event ∈ hubSelected, event.Built) ∧
    (List.range 4).filter (ofEvents hubSelected).isSelected = [0, 2] ∧
    (ofEvents hubSelected).hash? 2 = hublessBuilt.hash? 1 ∧
    (List.range 2).filter
      ((ofEvents hubSelected).publish hublessBuilt .standard default).1.isSelected = [1] ∧
    ((ofEvents hubSelected).publish hublessBuilt .standard default).2.carried = 1 ∧
    (ofEvents hubSelected).Carries hublessBuilt
      ((ofEvents hubSelected).publish hublessBuilt .standard default) := by
  have built : ∀ event ∈ hubSelected, event.Built := by
    intro event member
    rcases List.mem_pair.mp member with rfl | rfl
    · -- The pad had the number two and has the number one now; the hub is gone.
      exact Snapshot.built_build Snapshot.hub_grown _
    · trivial
  exact ⟨built, by decide +kernel, by decide +kernel, by decide +kernel, by decide +kernel,
    carries_publish built hublessBuilt .standard default⟩

end DeviceBrowser.Stage

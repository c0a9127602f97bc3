import DeviceBrowser.Proofs.Snapshot.Lookup
import DeviceBrowser.Publication
import Mathlib.Data.List.Induction

/-! Runs of a stage: snapshots are published, time passes, and the states of the nodes on display
are written in between. -/

namespace DeviceBrowser.Stage

/-- The checksum of a node on display. -/
def hash? (stage : Stage) (number : Nat) : Option UInt32 :=
  stage.snapshot?.bind (·.hash? number)

/-- Whether a node on display is selected. -/
def isSelected (stage : Stage) (number : Nat) : Bool :=
  stage.active.any (·.isSelected number)

/-- What can happen to a stage. Writing changes the state of each node on display in its own way. -/
inductive Event where
  | publish (next : Snapshot) (preferences : Preferences) (now : FileTime)
  | tick (elapsed : Duration)
  | write (change : Nat → NodeState → NodeState)

namespace Event

/-- A snapshot that is published was built. -/
def Built [Zone] : Event → Prop
  | publish next _ _ => next.Built
  | tick _ => True
  | write _ => True

/-- Whether an event is a publication. -/
def isPublication : Event → Bool
  | publish _ _ _ => true
  | tick _ => false
  | write _ => false

/-- A stage after an event. -/
def apply (stage : Stage) : Event → Stage
  | publish next preferences now => (stage.publish next preferences now).1
  | tick elapsed => (stage.tick elapsed).2
  | write change =>
    stage.update fun published => { published with states := published.states.mapIdx change }

end Event

/-- The stage that events lead to from a dark one. -/
def ofEvents (events : List Event) : Stage := events.foldl Event.apply dark

@[simp] theorem ofEvents_append_singleton (events : List Event) (event : Event) :
    ofEvents (events ++ [event]) = event.apply (ofEvents events) := by
  -- Events happen from the front to the end.
  simp [ofEvents]

/-- A publication puts its snapshot on display. -/
@[simp] theorem snapshot?_publish (stage : Stage) (next : Snapshot) (preferences : Preferences)
    (now : FileTime) : (stage.publish next preferences now).1.snapshot? = some next := by
  -- The dark stage and the lit one differ in the states only.
  simp only [snapshot?, publish]
  split <;> rfl

/-- Writing states leaves the snapshot on display. -/
@[simp] theorem snapshot?_write (stage : Stage) (change : Nat → NodeState → NodeState) :
    (Event.apply stage (.write change)).snapshot? = stage.snapshot? := by
  -- States are written beside the snapshot.
  simp [Event.apply, snapshot?, update, Function.comp_def]

/-- What is on display was built, if all was that was published. -/
theorem built_ofEvents [Zone] {events : List Event} (built : ∀ event ∈ events, event.Built)
    {snapshot : Snapshot} (found : (ofEvents events).snapshot? = some snapshot) :
    snapshot.Built := by
  -- The induction is on the events from the last one back, as only a publication matters.
  induction events using List.reverseRecOn with
  | nil => cases found
  | append_singleton events event ih =>
    obtain ⟨earlier, last⟩ := List.forall_mem_append.mp built
    rw [ofEvents_append_singleton] at found
    cases event with
    | publish next preferences now =>
      rw [Event.apply, snapshot?_publish] at found
      cases found
      exact last _ List.mem_cons_self
    | tick elapsed => exact ih earlier found
    | write change => exact ih earlier ((snapshot?_write _ _).symm.trans found)

/-- A stage is dark until something is published. -/
theorem active_ofEvents (events : List Event) :
    (ofEvents events).active.isSome = events.any (·.isPublication) := by
  -- By induction on the events from the last one back; only a publication lights the stage.
  induction events using List.reverseRecOn with
  | nil => rfl
  | append_singleton events event ih =>
    rw [ofEvents_append_singleton, List.any_append, ← ih]
    cases event with
    | publish next preferences now =>
      simp only [Event.apply, publish]
      split <;> simp [Event.isPublication]
    | tick elapsed => simp [Event.apply, tick, Event.isPublication]
    | write change => simp [Event.apply, update, Event.isPublication]

end DeviceBrowser.Stage

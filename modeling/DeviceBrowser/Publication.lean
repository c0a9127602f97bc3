import DeviceBrowser.Highlights
import DeviceBrowser.Snapshot

/-! Publication: the snapshot on display with the state of each node, and what a new snapshot takes
over from the one before. -/

namespace DeviceBrowser

/-- The state of a node on display. -/
structure NodeState where
  selected : Bool
  visible : Bool
deriving DecidableEq, Inhabited

/-- A node starts unselected and visible. -/
def NodeState.fresh : NodeState := ⟨false, true⟩

/-- A snapshot on display, with one state for each node. -/
structure Published where
  snapshot : Snapshot
  states : Array NodeState

namespace Published

/-- Whether a node is selected. -/
def isSelected (published : Published) (number : Nat) : Bool :=
  match published.states[number]? with
  | some state => state.selected
  | none => false

/-- Whether a node is visible. -/
def isVisible (published : Published) (number : Nat) : Bool :=
  match published.states[number]? with
  | some state => state.visible
  | none => false

/-- Selects a node or takes it out of the selection. -/
def select (published : Published) (number : Nat) (selected : Bool) : Published :=
  { published with states := published.states.modify number fun state => { state with selected } }

/-- Empties the selection. -/
def clearSelection (published : Published) : Published :=
  { published with states := published.states.map fun state => { state with selected := false } }

/-- Whether a node with a checksum is selected. -/
def holdsSelected (published : Published) (hash : UInt32) : Bool :=
  match published.snapshot.lookup hash with
  | some number => published.isSelected number
  | none => false

end Published

/-- What a publication did: the nodes on display, whether it was the first, the selected nodes
taken over, and the nodes just arrived. -/
structure PublishReport where
  nodes : Nat
  first : Bool
  carried : Nat
  arrived : Nat
deriving DecidableEq

/-- The snapshot on display, if any, and the running highlights. -/
structure Stage where
  active : Option Published
  highlights : Highlights

namespace Stage

/-- A stage before anything is published. -/
def dark : Stage := ⟨none, .none⟩

/-- The snapshot on display. -/
def snapshot? (stage : Stage) : Option Snapshot := stage.active.map (·.snapshot)

/-- The edition whose snapshot is on display. -/
def edition? (stage : Stage) : Option Edition := stage.snapshot?.map (·.edition)

/-- Whether the device of a node has just arrived. -/
def hasArrived (snapshot : Snapshot) (now : FileTime) (number : Nat) : Bool :=
  match snapshot.device? number with
  | some device => device.hasJustArrived now
  | none => false

/-- The states of a new snapshot's nodes: those stay selected whose checksums were. -/
def carriedStates (old : Published) (next : Snapshot) : Array NodeState :=
  next.nodes.map fun node => { NodeState.fresh with selected := old.holdsSelected node.hash }

/-- The highlights over a new snapshot: those of nodes that left end, and those of nodes just
arrived start. -/
def carriedHighlights (highlights : Highlights) (next : Snapshot) (preferences : Preferences)
    (now : FileTime) : Highlights :=
  -- Highlights of nodes that left are dropped first, and one that runs starts anew.
  (next.nodes.zipIdx.filter fun (_, number) => hasArrived next now number).foldl
    (fun running (node, _) => running.start node.hash preferences.highlightFor
      preferences.colors.arrived)
    (highlights.retain fun hash => (next.lookup hash).isSome)

/-- Puts a snapshot on display. The first one starts without selection and highlights; a later one
takes both over by checksum. -/
def publish (stage : Stage) (next : Snapshot) (preferences : Preferences) (now : FileTime) :
    Stage × PublishReport :=
  match stage.active with
  | none =>
    (⟨some ⟨next, Array.replicate next.size .fresh⟩, .none⟩, ⟨next.size, true, 0, 0⟩)
  | some old =>
    let states := carriedStates old next
    (⟨some ⟨next, states⟩, carriedHighlights stage.highlights next preferences now⟩,
      { nodes := next.size
        first := false
        carried := states.countP (·.selected)
        arrived := (List.range next.size).countP (hasArrived next now) })

/-- Lets time pass, and names the nodes on display whose highlights ran out. -/
def tick (stage : Stage) (elapsed : Duration) : List Nat × Stage :=
  let (expired, highlights) := stage.highlights.tick elapsed
  let numbers :=
    match stage.snapshot? with
    | some snapshot => expired.filterMap snapshot.lookup
    | none => []
  (numbers, { stage with highlights })

/-- The highlight of a node on display. -/
def highlight? (stage : Stage) (number : Nat) : Option Highlight := do
  stage.highlights.find? (← (← stage.snapshot?).hash? number)

/-- The stage with the display changed, if there is one. -/
def update (stage : Stage) (change : Published → Published) : Stage :=
  { stage with active := stage.active.map change }

end Stage

end DeviceBrowser

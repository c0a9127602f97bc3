import DeviceBrowser.Publication
import DeviceBrowser.View.Columns
import DeviceBrowser.View.Search
import DeviceBrowser.View.Sorting

/-! The listing: what columns, sorting and search make of the snapshot on display. The sorted order
and the marks of shown nodes are kept, and renewed when something they depend on changes. -/

namespace DeviceBrowser

variable [Zone]

namespace Snapshot

/-- Nodes from a work list on, each before those below it, through at most a number of steps. -/
def walk (snapshot : Snapshot) : Nat → List Nat → List Nat
  | 0, _ => []
  | _, [] => []
  | steps + 1, number :: rest =>
    number :: walk snapshot steps (snapshot.children (some number) ++ rest)

/-- Every node of the tree, each before those below it. -/
def treeOrder (snapshot : Snapshot) : List Nat := snapshot.walk snapshot.size snapshot.roots

/-- Whether the device of a node is less than that of another under a sorting. -/
def sortLess (snapshot : Snapshot) (sorting : Sorting) (left right : Nat) : Bool :=
  match snapshot.device? left, snapshot.device? right with
  | some left, some right => Device.compare sorting left right == .lt
  | _, _ => false

/-- Every node under a sorting; without a direction, none. -/
def sorted (snapshot : Snapshot) (sorting : Sorting) : List Nat :=
  if sorting.isActive then orderBy (snapshot.sortLess sorting) (List.range snapshot.size) else []

/-- Marks a node and those above it, up to one that is marked, in at most a number of steps. -/
def markUp (snapshot : Snapshot) : Nat → Option Nat → Array Bool → Array Bool
  | 0, _, marks => marks
  | _, none, marks => marks
  | steps + 1, some number, marks =>
    -- Above a marked node all are marked already.
    if marks[number]? = some false then
      markUp snapshot steps ((snapshot.node? number).bind (·.parent))
        (marks.setIfInBounds number true)
    else marks

/-- The nodes that a tree shows for the visible ones: those and all above them. -/
def reachable (snapshot : Snapshot) (visible : Array Bool) : Array Bool :=
  -- The given marks tell which nodes are visible; a mark set on the way is only above such a node.
  (List.range snapshot.size).foldl (fun marks number =>
    if visible[number]? = some true then
      snapshot.markUp snapshot.size ((snapshot.node? number).bind (·.parent)) marks
    else marks) visible

/-- Whether each node matches a search, if there is one. -/
def matching (snapshot : Snapshot) (search : Option SearchTerm) (columns : Columns) :
    Array Bool :=
  ((List.range snapshot.size).map fun number =>
    match search, snapshot.device? number with
    | some term, some device => term.matchesDevice columns.shown device
    | some _, none => false
    | none, _ => true).toArray

end Snapshot

/-- The state of a listing. -/
structure Listing where
  sorting : Sorting
  search : Option SearchTerm
  columns : Columns
  sorted : List Nat
  shown : Array Bool

namespace Listing

/-- A listing before anything is on display. -/
def start (columns : Columns) (sorting : Sorting) : Listing := ⟨sorting, none, columns, [], #[]⟩

/-- Whether the nodes are listed flat, and not as a tree. -/
def isFlat (listing : Listing) : Bool := listing.sorting.isActive

/-- Sorts the nodes anew. -/
def resort (listing : Listing) (snapshot : Option Snapshot) : Listing :=
  { listing with
    sorted :=
      match snapshot with
      | some snapshot => snapshot.sorted listing.sorting
      | none => [] }

/-- Lists by another sorting. -/
def sortBy (listing : Listing) (sorting : Sorting) (snapshot : Option Snapshot) : Listing :=
  { listing with sorting }.resort snapshot

/-- Looks for another text; nothing comes of the text that is looked for already. -/
def lookFor? (listing : Listing) (text : String) : Option Listing :=
  let term := SearchTerm.ofText? text
  if SearchTerm.isSame term listing.search then none else some { listing with search := term }

/-- Matches every node of the display anew. -/
def filter (listing : Listing) (published : Published) : Listing × Published :=
  let visible := published.snapshot.matching listing.search listing.columns
  ({ listing with shown := published.snapshot.reachable visible },
    { published with
      states := published.states.mapIdx fun number state =>
        { state with visible := visible[number]?.getD true } })

/-- Whether a node has a row: in a flat listing when it is visible, in a tree also when a node below
it is. -/
def isShown (listing : Listing) (published : Published) (number : Nat) : Bool :=
  -- A flat listing shows no node for the sake of one below it.
  if listing.isFlat then published.isVisible number
  else (listing.shown[number]?).getD (published.isVisible number)

/-- The nodes below a node, or the first ones: in a flat listing all in their order. -/
def children (listing : Listing) (snapshot : Snapshot) (parent : Option Nat) : List Nat :=
  if listing.isFlat then (if parent.isNone then listing.sorted else [])
  else snapshot.children parent

/-- The visible nodes from top to bottom, as a fully expanded tree or as a flat list has them. -/
def displayOrder (listing : Listing) (published : Published) : List Nat :=
  let order := if listing.isFlat then listing.sorted else published.snapshot.treeOrder
  order.filter published.isVisible

/-- The visible nodes that are selected, from top to bottom. -/
def selection (listing : Listing) (published : Published) : List Nat :=
  (listing.displayOrder published).filter published.isSelected

end Listing

end DeviceBrowser

import DeviceBrowser.Browser

/-! Rows of the device table: the nodes that are listed, how deep they are, and whether they can be
or are expanded. -/

namespace DeviceBrowser

/-- A row of the table. -/
structure Row where
  node : Nat
  depth : UInt16
  hasChildren : Bool
  isExpanded : Bool
deriving DecidableEq

namespace Browser

/-- The row of a node in a tree. A node whose checksum is among the collapsed ones is not
expanded. -/
def row (browser : Browser) (collapsed : List UInt32) (node : Nat) (depth : UInt16) : Row :=
  let hasChildren := (browser.children (some node)).any browser.isShown
  let isCollapsed :=
    match browser.snapshot?.bind (·.hash? node) with
    | some hash => collapsed.contains hash
    | none => false
  ⟨node, depth, hasChildren, hasChildren && !isCollapsed⟩

/-- The rows from a work list of nodes and their depths, each before those below it, through at most
a number of steps. -/
def rowsFrom (browser : Browser) (collapsed : List UInt32) :
    Nat → List (Nat × UInt16) → List Row
  | 0, _ => []
  | _, [] => []
  | steps + 1, (node, depth) :: rest =>
    -- A node that is not shown hides all that is below it.
    if browser.isShown node then
      let row := browser.row collapsed node depth
      let below := if row.isExpanded then browser.children (some node) else []
      row :: rowsFrom browser collapsed steps (below.map (·, depth + 1) ++ rest)
    else rowsFrom browser collapsed steps rest

/-- The rows of the table: of a flat listing every shown node, of a tree those below no collapsed
node. -/
def rows (browser : Browser) (collapsed : List UInt32) : List Row :=
  if browser.listing.isFlat then
    ((browser.children none).filter browser.isShown).map (⟨·, 0, false, false⟩)
  else
    let steps := match browser.snapshot? with
      | some snapshot => snapshot.size
      | none => 0
    browser.rowsFrom collapsed steps ((browser.children none).map (·, 0))

end Browser

end DeviceBrowser

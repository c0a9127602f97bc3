import DeviceBrowser.Window.Measure

/-! Boxes in the window: where they lie, whether a position is in one, and which box lies nearest to
a position. -/

namespace DeviceBrowser

/-- A position in the window, from its upper left corner to the right and down. -/
structure Position where
  x : Int
  y : Int
deriving DecidableEq

/-- A box in the window. -/
structure Box where
  left : Int
  top : Int
  right : Int
  bottom : Int
deriving DecidableEq

namespace Box

/-- Whether a position is in a box or on its edge. -/
def contains (box : Box) (position : Position) : Bool :=
  box.left ≤ position.x && position.x ≤ box.right &&
    box.top ≤ position.y && position.y ≤ box.bottom

/-- The box without a margin inside its edges. -/
def shrink (box : Box) (margin : Int) : Box :=
  ⟨box.left + margin, box.top + margin, box.right - margin, box.bottom - margin⟩

/-- How far a place lies outside of a range. -/
def outside (low high place : Int) : Int := max 0 (max (low - place) (place - high))

/-- The square of the distance of a position from a box. -/
def farness (box : Box) (position : Position) : Int :=
  let across := outside box.left box.right position.x
  let down := outside box.top box.bottom position.y
  across * across + down * down

/-- The height of the middle of a box. -/
def middle (box : Box) : Int := (box.top + box.bottom) / 2

/-- Of things in boxes the one nearest to a position, the last one of equally near ones. -/
def nearest? {α : Type} (position : Position) : List (α × Box) → Option (α × Box)
  | [] => none
  | first :: rest =>
    match nearest? position rest with
    | some found =>
      if found.2.farness position ≤ first.2.farness position then some found else some first
    | none => some first

/-- Of things in boxes the nearest one, if it is not farther away than some length. -/
def within? {α : Type} (position : Position) (length : Int) (things : List (α × Box)) :
    Option (α × Box) :=
  (nearest? position things).filter fun found => found.2.farness position ≤ length * length

end Box

end DeviceBrowser

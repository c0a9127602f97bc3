import DeviceBrowser.Pixel

/-! The emblem of the program, drawn at any size: a chip wired to two others, and the ring of a lens
around the right one. -/

namespace DeviceBrowser

/-- A point of the plane. -/
structure Point where
  x : Float32
  y : Float32

namespace Point

/-- The point at a scale. -/
def scale (point : Point) (side : Float32) : Point := ⟨point.x * side, point.y * side⟩

/-- The way from one point to another. -/
def sub (point origin : Point) : Point := ⟨point.x - origin.x, point.y - origin.y⟩

/-- The product of two ways, coordinate by coordinate. -/
def dot (left right : Point) : Float32 := left.x * right.x + left.y * right.y

/-- The length of a way. -/
def length (point : Point) : Float32 := (point.dot point).sqrt

end Point

/-- A number brought into the range from zero to one. -/
def clampUnit (value : Float32) : Float32 :=
  if value < 0 then 0 else if 1 < value then 1 else value

/-- A straight line between two points. -/
structure Segment where
  start : Point
  stop : Point

/-- The distance of a point from a segment. One that is hardly longer than a point counts as its
start. -/
def Segment.distance (segment : Segment) (point : Point) : Float32 :=
  let along := segment.stop.sub segment.start
  let away := point.sub segment.start
  let square := along.dot along
  if square < 0.0001 then away.length
  else
    let share := clampUnit (away.dot along / square)
    (point.sub ⟨segment.start.x + share * along.x, segment.start.y + share * along.y⟩).length

/-- A box with rounded corners: its center, half its extents and its color. -/
structure Chip where
  center : Point
  half : Point
  color : Color

namespace Chip

/-- The chip at the top. -/
def root : Chip := ⟨⟨0.5, 0.22⟩, ⟨0.17, 0.12⟩, ⟨0x4f, 0xc1, 0xb6⟩⟩

/-- The chip at the left. -/
def left : Chip := ⟨⟨0.24, 0.72⟩, ⟨0.14, 0.10⟩, ⟨0x7d, 0xa7, 0xd9⟩⟩

/-- The chip at the right. -/
def right : Chip := ⟨⟨0.72, 0.70⟩, ⟨0.14, 0.10⟩, ⟨0xe0, 0xa4, 0x58⟩⟩

/-- The chip at a scale. -/
def scale (chip : Chip) (side : Float32) : Chip :=
  ⟨chip.center.scale side, chip.half.scale side, chip.color⟩

/-- The distance of a point from a chip whose corners have a radius; inside it is negative. -/
def distance (chip : Chip) (radius : Float32) (point : Point) : Float32 :=
  let away := point.sub chip.center
  let x := away.x.abs - (chip.half.x - radius)
  let y := away.y.abs - (chip.half.y - radius)
  let outside := Point.length ⟨max x 0, max y 0⟩
  outside + min (max x y) 0 - radius

end Chip

/-- What has been drawn at one place so far. -/
structure Ink where
  color : Color
  opacity : Float32

namespace Ink

/-- Nothing drawn. -/
def clear : Ink := ⟨⟨0, 0, 0⟩, 0⟩

/-- How much of a place lies inside a shape that is a distance away. -/
def coverage (distance : Float32) : Float32 := clampUnit (0.5 - distance)

/-- Draws a color over a part of the place. -/
def draw (ink : Ink) (color : Color) (cover : Float32) : Ink :=
  if cover ≤ 0 then ink
  else ⟨ink.color.mix color cover, ink.opacity + (1 - ink.opacity) * cover⟩

/-- The pixel of what was drawn. -/
def pixel (ink : Ink) : Pixel :=
  { Pixel.ofColor ink.color with alpha := (ink.opacity * 255).toUInt8 }

end Ink

namespace Emblem

/-- The color of the wires. -/
def wireColor : Color := ⟨0x8c, 0x99, 0xa6⟩

/-- The color of the ring. -/
def ringColor : Color := ⟨0xdc, 0xe2, 0xe8⟩

/-- The wires: from the root chip down to a bus, along it, and down to each of the others. -/
def wires (side : Float32) : List Segment :=
  let bus := 0.47 * side
  let drop := fun chip : Chip =>
    let center := chip.center.scale side
    (center, (⟨center.x, bus⟩ : Point))
  let (root, rootEnd) := drop Chip.root
  let (left, leftEnd) := drop Chip.left
  let (right, rightEnd) := drop Chip.right
  [⟨root, rootEnd⟩, ⟨leftEnd, rightEnd⟩, ⟨leftEnd, left⟩, ⟨rightEnd, right⟩]

/-- The distance of a point from the ring around the right chip. -/
def ringDistance (side : Float32) (point : Point) : Float32 :=
  ((point.sub (Chip.right.center.scale side)).length - 0.2 * side).abs - max (0.03 * side) 0.7

/-- What is drawn at a point: the wires, the chips over them, and the ring over all. -/
def inkAt (side : Float32) (point : Point) : Ink :=
  let wired := (wires side).foldl (fun ink wire =>
    ink.draw wireColor (Ink.coverage (wire.distance point - max (0.025 * side) 0.6))) Ink.clear
  let chipped := [Chip.root, Chip.left, Chip.right].foldl (fun ink chip =>
    ink.draw chip.color (Ink.coverage ((chip.scale side).distance (0.04 * side) point))) wired
  chipped.draw ringColor (Ink.coverage (ringDistance side point))

/-- The middle of the place with a number. -/
def middle (place : Nat) : Float32 := place.toUInt32.toFloat32 + 0.5

/-- The emblem as an image with a side of so many pixels. -/
def image (side : Nat) : Image where
  side := side
  rows := (List.range side).map fun y => (List.range side).map fun x =>
    (inkAt side.toUInt32.toFloat32 ⟨middle x, middle y⟩).pixel

end Emblem

end DeviceBrowser

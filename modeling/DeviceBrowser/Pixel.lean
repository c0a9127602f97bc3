import DeviceBrowser.Color

/-! Pixels: colors with an opacity, and square images of them. -/

namespace DeviceBrowser

/-- A color with an opacity. -/
structure Pixel where
  red : UInt8
  green : UInt8
  blue : UInt8
  alpha : UInt8
deriving DecidableEq, Inhabited

namespace Pixel

/-- A color that hides what is behind it. -/
def ofColor (color : Color) : Pixel := ⟨color.red, color.green, color.blue, 255⟩

/-- The color of a pixel without its opacity. -/
def color (pixel : Pixel) : Color := ⟨pixel.red, pixel.green, pixel.blue⟩

/-- The components of a pixel in order. -/
def bytes (pixel : Pixel) : List UInt8 := [pixel.red, pixel.green, pixel.blue, pixel.alpha]

/-- The pixels whose components bytes are; what is too short for a pixel is left out. -/
def ofBytes : List UInt8 → List Pixel
  | red :: green :: blue :: alpha :: rest => ⟨red, green, blue, alpha⟩ :: ofBytes rest
  | _ => []

end Pixel

/-- A square image: its side and its rows from top to bottom. -/
structure Image where
  side : Nat
  rows : List (List Pixel)
deriving DecidableEq

namespace Image

/-- Whether the rows fill the square. -/
def isSquare (image : Image) : Bool :=
  image.rows.length == image.side && image.rows.all fun row => row.length == image.side

/-- The bytes of a row of pixels. -/
def rowBytes (row : List Pixel) : List UInt8 := row.flatMap Pixel.bytes

/-- The bytes of all pixels, row after row. -/
def bytes (image : Image) : List UInt8 := image.rows.flatMap rowBytes

/-- The image of a side whose pixels bytes are, row after row. -/
def ofBytes (side : Nat) (bytes : List UInt8) : Image where
  side := side
  rows := (List.range side).map fun row =>
    Pixel.ofBytes ((bytes.drop (4 * side * row)).take (4 * side))

end Image

end DeviceBrowser

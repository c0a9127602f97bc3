import DeviceBrowser.Emblem

/-! Icon files: a directory of frames, and each frame an image stored bottom up with a mask of its
transparent pixels; and reading them back. -/

namespace DeviceBrowser

namespace IconFile

/-- The lowest bytes of a number, the least significant first. -/
def number : Nat → Nat → List UInt8
  | 0, _ => []
  | width + 1, value => value.toUInt8 :: number width (value / 256)

/-- The number that bytes spell, the least significant first. -/
def value : List UInt8 → Nat
  | [] => 0
  | byte :: rest => byte.toNat + 256 * value rest

/-- The bytes of a file's header. -/
def headerLength : Nat := 6

/-- The bytes of an entry of the directory. -/
def entryLength : Nat := 16

/-- The header of a file with so many frames. -/
def header (frames : Nat) : List UInt8 := number 2 0 ++ number 2 1 ++ number 2 frames

/-- The byte that stands for a side: zero stands for 256, and for a side that no byte can hold. -/
def sideByte (side : Nat) : UInt8 := if side < 256 then side.toUInt8 else 0

/-- An entry of the directory: the side of a frame, its length and where it starts. -/
def entry (side length offset : Nat) : List UInt8 :=
  [sideByte side, sideByte side, 0, 0] ++ number 2 1 ++ number 2 32 ++ number 4 length ++
    number 4 offset

/-- The bytes of a pixel in a frame. -/
def pixelBytes (pixel : Pixel) : List UInt8 := [pixel.blue, pixel.green, pixel.red, pixel.alpha]

/-- The bit of a place in a byte of the mask, the first place highest. -/
def maskBit (place : Nat) : UInt8 := 0x80 >>> place.toUInt8

/-- Whether a pixel counts as transparent. -/
def isTransparent (pixel : Pixel) : Bool := pixel.alpha < 128

/-- The mask of up to eight pixels. -/
def maskByte (pixels : List Pixel) : UInt8 :=
  pixels.zipIdx.foldl (fun mask (pixel, place) =>
    if isTransparent pixel then mask ||| maskBit place else mask) 0

/-- The bytes in which the mask of a row is kept: whole groups of four. -/
def maskWidth (side : Nat) : Nat := (side + 31) / 32 * 4

/-- The mask of a row. -/
def maskRow (side : Nat) (row : List Pixel) : List UInt8 :=
  (List.range (maskWidth side)).map fun group => maskByte ((row.drop (8 * group)).take 8)

/-- The description at the start of a frame. Its height counts the image and the mask. -/
def frameHeader (side : Nat) : List UInt8 :=
  number 4 40 ++ number 4 side ++ number 4 (side * 2) ++ number 2 1 ++ number 2 32 ++
    List.replicate 24 0

/-- The frame of an image. -/
def frame (image : Image) : List UInt8 :=
  frameHeader image.side ++ image.rows.reverse.flatMap (·.flatMap pixelBytes) ++
    image.rows.reverse.flatMap (maskRow image.side)

/-- The directory of frames, given by their sides and lengths, that start at an offset. -/
def directory (offset : Nat) : List (Nat × Nat) → List UInt8
  | [] => []
  | (side, length) :: rest => entry side length offset ++ directory (offset + length) rest

/-- A file of images. -/
def ofImages (images : List Image) : List UInt8 :=
  let frames := images.map fun image => (image.side, frame image)
  header frames.length ++
    directory (headerLength + entryLength * frames.length)
      (frames.map fun (side, bytes) => (side, bytes.length)) ++
    frames.flatMap (·.2)

/-- The file of the emblem at several sizes. -/
def encode (sides : List Nat) : List UInt8 := ofImages (sides.map Emblem.image)

end IconFile

end DeviceBrowser

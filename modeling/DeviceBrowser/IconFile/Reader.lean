import DeviceBrowser.IconFile

/-! Reading icon files: where the directory says that the frames are, and the image and the mask of
a frame. -/

namespace DeviceBrowser.IconFile

/-- So many bytes from one place on. -/
def slice (start length : Nat) (bytes : List UInt8) : List UInt8 := (bytes.drop start).take length

/-- The number that stands in so many bytes from one place on. -/
def numberAt (start width : Nat) (bytes : List UInt8) : Nat := value (slice start width bytes)

/-- How many frames the header of a file counts. -/
def frameCount (file : List UInt8) : Nat := numberAt 4 2 file

/-- The side that a byte of the directory stands for. -/
def sideOf (byte : UInt8) : Nat := if byte = 0 then 256 else byte.toNat

/-- An entry of the directory as it is read. -/
structure Listed where
  side : Nat
  length : Nat
  offset : Nat
deriving DecidableEq

/-- The entry of the directory at a position. -/
def listedAt (file : List UInt8) (position : Nat) : Listed :=
  let start := headerLength + entryLength * position
  { side := sideOf (numberAt start 1 file).toUInt8
    length := numberAt (start + 8) 4 file
    offset := numberAt (start + 12) 4 file }

/-- The frame that an entry of the directory points to. -/
def frameAt (file : List UInt8) (listed : Listed) : List UInt8 :=
  slice listed.offset listed.length file

/-- The pixels that bytes of a frame spell. -/
def readPixels : List UInt8 → List Pixel
  | blue :: green :: red :: alpha :: rest => ⟨red, green, blue, alpha⟩ :: readPixels rest
  | _ => []

/-- The side of the image in a frame. -/
def sideAt (frame : List UInt8) : Nat := numberAt 4 4 frame

/-- Where the mask of a frame starts. -/
def maskStart (side : Nat) : Nat := 40 + 4 * side * side

/-- The image in a frame: its rows stand from the bottom up. -/
def readImage (frame : List UInt8) : Image :=
  let side := sideAt frame
  { side := side
    rows := (List.range side).reverse.map fun row =>
      readPixels (slice (40 + 4 * side * row) (4 * side) frame) }

/-- The bit of the mask at a column and a row from the top; columns past the side are padding. -/
def maskAt (frame : List UInt8) (column row : Nat) : Bool :=
  let side := sideAt frame
  let start := maskStart side + maskWidth side * (side - 1 - row)
  ((numberAt (start + column / 8) 1 frame).toUInt8 &&& maskBit (column % 8)) != 0

end DeviceBrowser.IconFile

import Mathlib.Algebra.GroupWithZero.Nat
import DeviceBrowser.IconFile.Reader

/-! Frames of icon files: the image and the mask that are read from the frame of an image are those
of the image, whatever its side. -/

namespace DeviceBrowser

/-- An image is square when it has as many rows as its side, each of that length. -/
theorem Image.isSquare_iff {image : Image} :
    image.isSquare ↔
      image.rows.length = image.side ∧ ∀ row ∈ image.rows, row.length = image.side := by
  -- Being square is checked in just this way.
  simp [Image.isSquare]

theorem Image.ext {left right : Image} (side : left.side = right.side)
    (rows : left.rows = right.rows) : left = right := by
  -- An image is its side and its rows.
  cases left
  cases right
  cases side
  cases rows
  rfl

namespace IconFile

/-! ## Numbers and slices -/

@[simp] theorem length_number (width value : Nat) : (number width value).length = width := by
  -- By induction on the width, one byte at a time.
  induction width generalizing value with
  | zero => rfl
  | succ width ih => simp [number, ih]

/-- A number is read back from as many bytes as it needs, or more. -/
theorem value_number {width number : Nat} (fits : number < 256 ^ width) :
    value (IconFile.number width number) = number := by
  induction width generalizing number with
  | zero =>
    rw [Nat.pow_zero, Nat.lt_one_iff] at fits
    rw [fits]
    rfl
  | succ width ih =>
    -- The first byte is the remainder by 256, and the others spell the quotient.
    have quotient : number / 256 < 256 ^ width := by
      rw [Nat.pow_succ] at fits
      exact Nat.div_lt_of_lt_mul (by omega)
    have remainder : number.toUInt8.toNat = number % 256 := by simp
    rw [IconFile.number, value, ih quotient, remainder]
    omega

/-- What stands between two parts is the slice from the end of the first on. -/
theorem slice_middle {start length : Nat} {front middle back : List UInt8}
    (before : front.length = start) (within : middle.length = length) :
    slice start length (front ++ middle ++ back) = middle := by
  -- The front is dropped, and the middle is all that is taken.
  simp [slice, ← before, ← within]

/-- A slice that ends before a part of the bytes does not depend on it. -/
theorem slice_append {start length : Nat} {front back : List UInt8}
    (within : start + length ≤ front.length) :
    slice start length (front ++ back) = slice start length front := by
  -- There are enough bytes in front, so none is taken from behind.
  have short : length ≤ (front.drop start).length := by
    rw [List.length_drop]
    omega
  rw [slice, List.drop_append_of_le_length (by omega), List.take_append_of_le_length short, slice]

/-- A slice that starts behind a part of the bytes does not depend on it. -/
theorem slice_behind {start : Nat} {front : List UInt8} (before : front.length = start)
    (offset length : Nat) (back : List UInt8) :
    slice (start + offset) length (front ++ back) = slice offset length back := by
  -- The front is dropped with the bytes that are passed.
  rw [slice, ← before, List.drop_length_add_append, slice]

/-- A slice of a part is a slice of the whole, as far as the part reaches. -/
theorem slice_within {start offset length : Nat} {front middle back : List UInt8}
    (before : front.length = start) (within : offset + length ≤ middle.length) :
    slice (start + offset) length (front ++ middle ++ back) = slice offset length middle := by
  -- The slice starts behind the front and ends before the back.
  rw [List.append_assoc, slice_behind before, slice_append within]

theorem numberAt_within {start offset width : Nat} {front middle back : List UInt8}
    (before : front.length = start) (within : offset + width ≤ middle.length) :
    numberAt (start + offset) width (front ++ middle ++ back) = numberAt offset width middle := by
  -- A number is read from the slice where it stands.
  rw [numberAt, slice_within before within, numberAt]

section Rows

variable {ι : Type} {items : List ι} {write : ι → List UInt8} {width : Nat}

theorem length_flatMap_of_width (wide : ∀ item ∈ items, (write item).length = width) :
    (items.flatMap write).length = width * items.length := by
  -- As many times the same width is summed up.
  rw [List.length_flatMap, List.map_congr_left wide, List.map_const', List.sum_replicate_nat,
    Nat.mul_comm]

/-- What stands at a position has so many items before it. -/
theorem exists_front {position : Nat} {item : ι} (found : items[position]? = some item) :
    ∃ front back, items = front ++ item :: back ∧ front.length = position := by
  -- The list is cut before and behind the position.
  obtain ⟨within, rfl⟩ := List.getElem?_eq_some_iff.mp found
  exact ⟨items.take position, items.drop (position + 1), by simp, by simp; omega⟩

/-- Where all items are written in the same width, each is found at its multiple of it. -/
theorem slice_flatMap (wide : ∀ item ∈ items, (write item).length = width) {position : Nat}
    {item : ι} (found : items[position]? = some item) :
    slice (width * position) width (items.flatMap write) = write item := by
  -- So many items of one width stand before it.
  obtain ⟨front, back, rfl, counted⟩ := exists_front found
  obtain ⟨frontWide, rest⟩ := List.forall_mem_append.mp wide
  have before : (front.flatMap write).length = width * position := by
    rw [length_flatMap_of_width frontWide, counted]
  rw [List.flatMap_append, List.flatMap_cons, ← List.append_assoc,
    slice_middle before (rest item List.mem_cons_self)]

end Rows

/-! ## Pixels -/

/-- The pixels of a row are read back from its bytes. -/
theorem readPixels_flatMap (row : List Pixel) : readPixels (row.flatMap pixelBytes) = row := by
  -- By induction on the pixels, four bytes at a time.
  induction row with
  | nil => rfl
  | cons pixel rest ih =>
    rw [List.flatMap_cons]
    exact congrArg (pixel :: ·) ih

/-! ## Masks -/

/-- The bits of two places meet only where the places are the same. -/
theorem maskBit_and_maskBit : ∀ first second : Fin 8,
    (maskBit first &&& maskBit second != 0) = decide (first = second) := by
  -- All pairs of places are looked at.
  decide

/-- A bit that is set in one of two masks is set in both of them together. -/
theorem or_and_ne_zero (first second bit : UInt8) :
    ((first ||| second) &&& bit != 0) = ((first &&& bit != 0) || (second &&& bit != 0)) := by
  -- A bit of both together is a bit of either.
  have distributes : (first ||| second) &&& bit = (first &&& bit) ||| (second &&& bit) :=
    UInt8.toBitVec_inj.mp BitVec.and_or_distrib_right
  rw [distributes, Bool.eq_iff_iff]
  simp only [bne_iff_ne, ne_eq, UInt8.or_eq_zero_iff, Bool.or_eq_true]
  exact Decidable.not_and_iff_not_or_not

/-- Marking one place in a mask leaves what is set, and sets that place. -/
theorem mark_and (mask : UInt8) (transparent : Bool) (first second : Fin 8) :
    ((if transparent then mask ||| maskBit first else mask) &&& maskBit second != 0) =
      ((mask &&& maskBit second != 0) || (transparent && decide (first = second))) := by
  -- An opaque pixel marks nothing, and a transparent one its own place.
  cases transparent with
  | false => simp
  | true => rw [if_pos rfl, or_and_ne_zero, maskBit_and_maskBit, Bool.true_and]

/-- Marking from a place on leaves what is set, and sets the places of the transparent pixels. -/
theorem foldl_mark_and {pixels : List Pixel} {start : Nat} (fits : start + pixels.length ≤ 8)
    (mask : UInt8) (place : Fin 8) :
    ((pixels.zipIdx start).foldl (fun mask (pixel, place) =>
        if isTransparent pixel then mask ||| maskBit place else mask) mask &&& maskBit place != 0) =
      ((mask &&& maskBit place != 0) ||
        (decide (start ≤ place) && pixels[place - start]?.any isTransparent)) := by
  induction pixels generalizing start mask with
  | nil => simp
  | cons pixel rest ih =>
    rw [List.length_cons] at fits
    rw [List.zipIdx_cons, List.foldl_cons, ih (by omega),
      mark_and mask (isTransparent pixel) ⟨start, by omega⟩ place, Bool.or_assoc]
    congr 1
    -- Either the pixel itself stands at the place, or the rest decides.
    rcases Nat.lt_trichotomy place start with before | rfl | after
    · have other : (⟨start, by omega⟩ : Fin 8) ≠ place := fun same => by simp [← same] at before
      have ahead : ¬ start + 1 ≤ place := by omega
      simp [other, ahead, Nat.not_le_of_lt before]
    · rw [decide_eq_false (Nat.not_succ_le_self place)]
      simp
    · have other : (⟨start, by omega⟩ : Fin 8) ≠ place := fun same => by simp [← same] at after
      have next : (place : Nat) - start = (place - (start + 1)) + 1 := by omega
      have behind : start + 1 ≤ place := after
      simp [next, other, behind, Nat.le_of_lt after]

/-- The mask of up to eight pixels has the bits of the transparent ones. -/
theorem maskByte_and {pixels : List Pixel} (few : pixels.length ≤ 8) {place : Nat}
    (within : place < 8) :
    (maskByte pixels &&& maskBit place != 0) = pixels[place]?.any isTransparent := by
  -- The mask starts empty and has room for eight pixels.
  have fits : 0 + pixels.length ≤ 8 := by rwa [Nat.zero_add]
  simpa [maskByte] using foldl_mark_and fits 0 ⟨place, within⟩

@[simp] theorem length_maskRow (side : Nat) (row : List Pixel) :
    (maskRow side row).length = maskWidth side := by
  simp [maskRow]

/-- A number of one byte is that byte. -/
theorem numberAt_one {bytes : List UInt8} {start : Nat} {byte : UInt8}
    (found : bytes[start]? = some byte) : (numberAt start 1 bytes).toUInt8 = byte := by
  -- The slice is the byte alone.
  obtain ⟨within, rfl⟩ := List.getElem?_eq_some_iff.mp found
  have alone : slice start 1 bytes = [bytes[start]] := by
    rw [slice, List.drop_eq_getElem_cons within]
    rfl
  simp [numberAt, alone, value]

/-- The mask of a row has the bit of a column exactly if a transparent pixel stands there. -/
theorem maskRow_and {side column : Nat} (within : column < 8 * maskWidth side) (row : List Pixel) :
    ((numberAt (column / 8) 1 (maskRow side row)).toUInt8 &&& maskBit (column % 8) != 0) =
      row[column]?.any isTransparent := by
  have group : (maskRow side row)[column / 8]? =
      some (maskByte ((row.drop (8 * (column / 8))).take 8)) := by
    have inside : column / 8 < maskWidth side := by omega
    simp [maskRow, inside]
  have few : ((row.drop (8 * (column / 8))).take 8).length ≤ 8 := List.length_take_le _ _
  have inGroup : column % 8 < 8 := Nat.mod_lt _ (by decide)
  -- Eight columns share a byte, and the place in it is what is left of the column.
  rw [numberAt_one group, maskByte_and few inGroup, List.getElem?_take_of_lt inGroup,
    List.getElem?_drop, Nat.div_add_mod]

/-! ## The parts of a frame -/

/-- A slice of a slice is a slice of the whole. -/
theorem slice_slice {start length offset width : Nat} (within : offset + width ≤ length)
    (bytes : List UInt8) :
    slice offset width (slice start length bytes) = slice (start + offset) width bytes := by
  -- Taking less of what was taken, further on, could be done at once.
  have short : width ≤ length - offset := by omega
  rw [slice, slice, slice, List.drop_take, List.take_take, List.drop_drop, Nat.min_eq_left short]

@[simp] theorem length_pixelBytes (pixel : Pixel) : (pixelBytes pixel).length = 4 := rfl

@[simp] theorem length_frameHeader (side : Nat) : (frameHeader side).length = 40 := by
  simp [frameHeader]

/-- The pixels of an image as a frame keeps them, the lowest row first. -/
def pixelPart (image : Image) : List UInt8 := image.rows.reverse.flatMap (·.flatMap pixelBytes)

/-- The masks of the rows of an image, the lowest row first. -/
def maskPart (image : Image) : List UInt8 := image.rows.reverse.flatMap (maskRow image.side)

theorem frame_eq (image : Image) :
    frame image = frameHeader image.side ++ pixelPart image ++ maskPart image := rfl

/-- What is read from the header of a frame does not depend on the rest of it. -/
theorem numberAt_frame {start width : Nat} (within : start + width ≤ 40) (image : Image) :
    numberAt start width (frame image) = numberAt start width (frameHeader image.side) := by
  -- The header comes first and is long enough.
  have room : start + width ≤ (frameHeader image.side).length := by rwa [length_frameHeader]
  rw [frame_eq, List.append_assoc, numberAt, slice_append room, numberAt]

/-- The width in the header of a frame is the side of its image. -/
theorem sideAt_frame {image : Image} (small : image.side < 2 ^ 32) :
    sideAt (frame image) = image.side := by
  -- The side stands in the header as a number of four bytes.
  have fits : image.side < 256 ^ 4 := by omega
  have width : slice 4 4 (frameHeader image.side) = number 4 image.side := rfl
  rw [sideAt, numberAt_frame (by decide), numberAt, width, value_number fits]

/-- The height in the header of a frame is twice the side of its image. -/
theorem heightAt_frame {image : Image} (small : image.side < 2 ^ 31) :
    numberAt 8 4 (frame image) = 2 * image.side := by
  -- Pixels and mask are counted as one picture above the other.
  have fits : image.side * 2 < 256 ^ 4 := by omega
  have height : slice 8 4 (frameHeader image.side) = number 4 (image.side * 2) := rfl
  rw [numberAt_frame (by decide), numberAt, height, value_number fits, Nat.mul_comm]

section Square

variable {image : Image} (square : image.isSquare)
include square

theorem length_pixelRow {row : List Pixel} (member : row ∈ image.rows.reverse) :
    (row.flatMap pixelBytes).length = 4 * image.side := by
  -- Four bytes for each pixel.
  have long := (Image.isSquare_iff.mp square).2 row (List.mem_reverse.mp member)
  rw [length_flatMap_of_width fun pixel _ => length_pixelBytes pixel, long]

theorem length_pixelPart : (pixelPart image).length = 4 * image.side * image.side := by
  -- As many rows as the side, each as long as it says.
  rw [pixelPart, length_flatMap_of_width fun row => length_pixelRow square, List.length_reverse,
    (Image.isSquare_iff.mp square).1]

theorem length_maskPart : (maskPart image).length = maskWidth image.side * image.side := by
  -- As many rows as the side, each in whole groups of four bytes.
  rw [maskPart, length_flatMap_of_width fun row _ => length_maskRow image.side row,
    List.length_reverse, (Image.isSquare_iff.mp square).1]

/-- A frame is as long as its side says. -/
theorem length_frame :
    (frame image).length =
      40 + 4 * image.side * image.side + maskWidth image.side * image.side := by
  -- Header, pixels and mask are put together.
  rw [frame_eq, List.length_append, List.length_append, length_frameHeader,
    length_pixelPart square, length_maskPart square]

/-- Counted from the bottom, the rows are those counted from the top. -/
theorem getElem?_reverse_rows {row : Nat} (within : row < image.side) :
    image.rows.reverse[image.side - 1 - row]? = image.rows[row]? := by
  -- There are as many rows as the side.
  have tall := (Image.isSquare_iff.mp square).1
  rw [List.getElem?_reverse (by omega), tall]
  congr 1
  omega

/-- The pixels of a row are read from where a frame keeps it. -/
theorem readPixels_frame {position : Nat} {row : List Pixel}
    (found : image.rows.reverse[position]? = some row) :
    readPixels (slice (40 + 4 * image.side * position) (4 * image.side) (frame image)) = row := by
  -- Rows of one length stand behind the header, the lowest one first.
  have inside : position < image.side := by
    have := (List.getElem?_eq_some_iff.mp found).1
    rwa [List.length_reverse, (Image.isSquare_iff.mp square).1] at this
  have within : 4 * image.side * position + 4 * image.side ≤ (pixelPart image).length := by
    rw [length_pixelPart square, ← Nat.mul_succ]
    exact Nat.mul_le_mul_left _ inside
  rw [frame_eq, slice_within (length_frameHeader image.side) within, pixelPart,
    slice_flatMap (fun row => length_pixelRow square) found, readPixels_flatMap]

/-- The image in the frame of an image is that image. -/
theorem readImage_frame (small : image.side < 2 ^ 32) : readImage (frame image) = image := by
  -- Side and rows are read back, the rows from the bottom up.
  have tall := (Image.isSquare_iff.mp square).1
  have rows : (readImage (frame image)).rows = image.rows := by
    rw [readImage, sideAt_frame small]
    refine List.ext_getElem (by simp [tall]) fun row _ within => ?_
    rw [List.getElem_map, List.getElem_reverse, List.getElem_range, List.length_range]
    refine readPixels_frame square ?_
    rw [getElem?_reverse_rows square (tall ▸ within), List.getElem?_eq_getElem within]
  exact Image.ext (sideAt_frame small) rows

/-- The mask of a frame has a bit exactly where a transparent pixel stands. -/
theorem maskAt_frame (small : image.side < 2 ^ 32) {column row : Nat}
    (across : column < 8 * maskWidth image.side) (down : row < image.side) :
    maskAt (frame image) column row =
      ((image.rows[row]?.bind (·[column]?)).any isTransparent) := by
  have tall := (Image.isSquare_iff.mp square).1
  have found : image.rows[row]? = some image.rows[row] := List.getElem?_eq_getElem (tall ▸ down)
  have before : (frameHeader image.side ++ pixelPart image).length = maskStart image.side := by
    rw [List.length_append, length_frameHeader, length_pixelPart square, maskStart]
  -- The byte of the column is in the stretch of its row, which is counted from the bottom.
  have group : column / 8 + 1 ≤ maskWidth image.side := by omega
  have within : maskWidth image.side * (image.side - 1 - row) + column / 8 + 1 ≤
      (maskPart image).length := by
    have rows : image.side - 1 - row + 1 ≤ image.side := by omega
    have room := Nat.mul_le_mul_left (maskWidth image.side) rows
    rw [Nat.mul_succ] at room
    rw [length_maskPart square]
    omega
  -- Behind the header and the pixels, the file is the mask, and there one row of it.
  have byte : numberAt (maskStart image.side + maskWidth image.side * (image.side - 1 - row) +
        column / 8) 1 (frame image) =
      numberAt (column / 8) 1 (maskRow image.side image.rows[row]) := by
    have kept := slice_flatMap (fun row _ => length_maskRow image.side row)
      ((getElem?_reverse_rows square down).trans found)
    rw [frame_eq, ← List.append_nil (_ ++ maskPart image), Nat.add_assoc,
      numberAt_within before within, numberAt, ← slice_slice group, maskPart, kept, numberAt]
  rw [maskAt, sideAt_frame small, byte, maskRow_and across, found, Option.bind_some]

/-- The columns of the mask past the side of the image are clear. -/
theorem maskAt_padding (small : image.side < 2 ^ 32) {column row : Nat}
    (outside : image.side ≤ column) (across : column < 8 * maskWidth image.side)
    (down : row < image.side) : maskAt (frame image) column row = false := by
  -- There is no pixel in such a column that could be transparent.
  obtain ⟨tall, wide⟩ := Image.isSquare_iff.mp square
  have found : image.rows[row]? = some image.rows[row] := List.getElem?_eq_getElem (tall ▸ down)
  have short : image.rows[row].length ≤ column := by rwa [wide _ (List.getElem_mem _)]
  rw [maskAt_frame square small across down, found, Option.bind_some, List.getElem?_eq_none short,
    Option.any_none]

end Square

end IconFile

end DeviceBrowser

import DeviceBrowser.Proofs.IconFile.Frame

/-! Images as buffers: the bytes of the pixels, row after row, and the image of a side whose pixels
they are, are the same thing. -/

namespace DeviceBrowser

namespace Pixel

@[simp] theorem length_bytes (pixel : Pixel) : pixel.bytes.length = 4 := rfl

/-- Pixels are read back from their components. -/
theorem ofBytes_bytes (pixels : List Pixel) : ofBytes (pixels.flatMap bytes) = pixels := by
  -- By induction on the pixels, four bytes at a time.
  induction pixels with
  | nil => rfl
  | cons pixel rest ih =>
    rw [List.flatMap_cons]
    exact congrArg (pixel :: ·) ih

/-- Whole pixels have the components from which they were read. -/
theorem bytes_ofBytes {count : Nat} {buffer : List UInt8} (whole : buffer.length = 4 * count) :
    (ofBytes buffer).flatMap bytes = buffer := by
  -- By induction on the number of pixels, each of which takes four bytes off the buffer.
  induction count generalizing buffer with
  | zero =>
    rw [List.length_eq_zero_iff.mp whole]
    rfl
  | succ count ih =>
    match buffer, whole with
    | red :: green :: blue :: alpha :: rest, whole =>
      simp only [List.length_cons] at whole
      rw [ofBytes, List.flatMap_cons, ih (by omega)]
      rfl

/-- There is a pixel for every four bytes. -/
theorem length_ofBytes {count : Nat} {buffer : List UInt8} (whole : buffer.length = 4 * count) :
    (ofBytes buffer).length = count := by
  -- Their components are the buffer again, four for each.
  have spelled := congrArg List.length (bytes_ofBytes whole)
  rw [IconFile.length_flatMap_of_width fun pixel _ => length_bytes pixel, whole] at spelled
  omega

/-- The opacity of a pixel is the last of its four bytes. -/
theorem alpha_ofBytes : ∀ (buffer : List UInt8) (position : Nat),
    (ofBytes buffer)[position]?.map alpha = buffer[4 * position + 3]?
  -- Without four bytes there is no pixel; with them the first is read, or another one behind it.
  | [], _ | [_], _ | [_, _], _ | [_, _, _], _ => by simp [ofBytes]
  | _ :: _ :: _ :: _ :: _, 0 => rfl
  | _ :: _ :: _ :: _ :: rest, position + 1 => alpha_ofBytes rest position

end Pixel

namespace Image

/-- Bytes are their stretches of one length put together, as far as these reach. -/
theorem flatMap_range_take_drop {α : Type} (width count : Nat) (items : List α) :
    (List.range count).flatMap (fun position => (items.drop (width * position)).take width) =
      items.take (width * count) := by
  -- By induction on the number of stretches, of which the last one goes on where the others end.
  induction count with
  | zero => simp
  | succ count ih =>
    rw [List.range_succ, List.flatMap_append, ih, List.flatMap_singleton, Nat.mul_succ,
      List.take_add]

section Whole

variable {side : Nat} {buffer : List UInt8} (whole : buffer.length = 4 * side * side)
include whole

/-- A stretch of the buffer for a row has as many bytes as the row needs. -/
theorem length_stretch {row : Nat} (within : row < side) :
    ((buffer.drop (4 * side * row)).take (4 * side)).length = 4 * side := by
  -- Before the last row is over there are enough bytes left.
  have room : 4 * side * row + 4 * side ≤ 4 * side * side := by
    rw [← Nat.mul_succ]
    exact Nat.mul_le_mul_left _ within
  rw [List.length_take, List.length_drop, whole]
  omega

/-- The image of a whole buffer is square. -/
theorem isSquare_ofBytes : (ofBytes side buffer).isSquare := by
  -- A row is made for each number below the side, from a stretch of that many pixels.
  refine isSquare_iff.mpr ⟨by simp [ofBytes], fun row member => ?_⟩
  obtain ⟨position, within, rfl⟩ := List.mem_map.mp member
  exact Pixel.length_ofBytes (length_stretch whole (List.mem_range.mp within))

/-- A whole buffer has the bytes of its image. -/
theorem bytes_ofBytes : (ofBytes side buffer).bytes = buffer := by
  -- Each row keeps its stretch of the buffer, and the stretches make up the whole.
  have rows : ∀ row ∈ List.range side,
      rowBytes (Pixel.ofBytes ((buffer.drop (4 * side * row)).take (4 * side))) =
        (buffer.drop (4 * side * row)).take (4 * side) := fun row within =>
    Pixel.bytes_ofBytes (length_stretch whole (List.mem_range.mp within))
  rw [bytes, ofBytes, List.flatMap_map, List.flatMap_def, List.map_congr_left rows,
    ← List.flatMap_def, flatMap_range_take_drop, List.take_of_length_le (Nat.le_of_eq whole)]

end Whole

/-- The opacity of the pixel at a column and a row stands in the buffer at its place. -/
theorem alpha_ofBytes {side column row : Nat} (buffer : List UInt8) (across : column < side)
    (down : row < side) :
    ((ofBytes side buffer).rows[row]?.bind (·[column]?)).map Pixel.alpha =
      buffer[4 * (side * row + column) + 3]? := by
  -- Rows and columns count the pixels in front, of four bytes each.
  have place : 4 * side * row + (4 * column + 3) = 4 * (side * row + column) + 3 := by
    rw [Nat.mul_add, Nat.mul_assoc]
    omega
  have found : (ofBytes side buffer).rows[row]? =
      some (Pixel.ofBytes ((buffer.drop (4 * side * row)).take (4 * side))) := by
    simp [ofBytes, down]
  rw [found, Option.bind_some, Pixel.alpha_ofBytes, List.getElem?_take_of_lt (by omega),
    List.getElem?_drop, place]

/-- A square image is the image of its bytes. -/
theorem ofBytes_bytes {image : Image} (square : image.isSquare) :
    ofBytes image.side image.bytes = image := by
  obtain ⟨tall, wide⟩ := isSquare_iff.mp square
  have long : ∀ row ∈ image.rows, (rowBytes row).length = 4 * image.side := fun row member => by
    rw [rowBytes, IconFile.length_flatMap_of_width fun pixel _ => Pixel.length_bytes pixel,
      wide row member]
  -- All rows are written in one width, so that each is found at its multiple of it.
  have rows : (ofBytes image.side image.bytes).rows = image.rows := by
    refine List.ext_getElem (by simp [ofBytes, tall]) fun row _ within => ?_
    have stretch := IconFile.slice_flatMap long (List.getElem?_eq_getElem within)
    simp only [ofBytes, List.getElem_map, List.getElem_range]
    exact (congrArg Pixel.ofBytes stretch).trans (Pixel.ofBytes_bytes _)
  exact Image.ext rfl rows

end Image

end DeviceBrowser

import DeviceBrowser.Proofs.IconFile.Buffers

/-! Icon files can be read back: the directory points to every frame, and a frame holds the pixels
and the mask that it was made from. -/

namespace DeviceBrowser.IconFile

/-! ## The directory -/

@[simp] theorem length_entry (side length offset : Nat) :
    (entry side length offset).length = entryLength := by
  -- Four bytes, two numbers of two bytes and two of four.
  simp [entry, entryLength]

@[simp] theorem length_header (frames : Nat) : (header frames).length = headerLength := by
  simp [header, headerLength]

theorem length_directory (offset : Nat) (frames : List (Nat × Nat)) :
    (directory offset frames).length = entryLength * frames.length := by
  -- By induction on the frames, with one entry each.
  induction frames generalizing offset with
  | nil => rfl
  | cons first rest ih =>
    rw [directory, List.length_append, length_entry, ih, List.length_cons, Nat.mul_succ,
      Nat.add_comm]

/-- The byte of a side stands for that side. -/
theorem sideOf_sideByte {side : Nat} (positive : 1 ≤ side) (small : side ≤ 256) :
    sideOf (sideByte side) = side := by
  -- The greatest side does not fit into a byte and is written as zero.
  rcases Nat.lt_or_eq_of_le small with fits | rfl
  · have kept : side.toUInt8.toNat = side := by simp; omega
    have visible : side.toUInt8 ≠ 0 := fun zero => by simp [zero] at kept; omega
    rw [sideByte, if_pos fits, sideOf, if_neg visible, kept]
  · rfl

/-- The lengths of the frames of images. -/
def frameLengths (images : List Image) : List Nat := images.map fun image => (frame image).length

/-- Where a frame of a file starts, given the lengths of all of them. -/
def startOf (lengths : List Nat) (position : Nat) : Nat :=
  headerLength + entryLength * lengths.length + (lengths.take position).sum

/-- Each frame starts where the one before it ends. -/
theorem startOf_succ {lengths : List Nat} {position length : Nat}
    (found : lengths[position]? = some length) :
    startOf lengths (position + 1) = startOf lengths position + length := by
  -- One more length is summed up.
  simp [startOf, List.take_add_one, found, Nat.add_assoc]

/-- An entry says of its frame how far the frames before it reach. -/
theorem slice_directory {frames : List (Nat × Nat)} {position side length : Nat}
    (found : frames[position]? = some (side, length)) (offset : Nat) :
    slice (entryLength * position) entryLength (directory offset frames) =
      entry side length (offset + ((frames.map (·.2)).take position).sum) := by
  -- The induction is on the frames, and the offset carries the lengths of those passed by.
  induction frames generalizing position offset with
  | nil => simp at found
  | cons first rest ih =>
    cases position with
    | zero =>
      obtain rfl : first = (side, length) := by simpa using found
      rw [directory, Nat.mul_zero, slice_append (by simp)]
      rfl
    | succ position =>
      have kept := slice_behind (length_entry first.1 first.2 offset) (entryLength * position)
        entryLength (directory (offset + first.2) rest)
      rw [directory, Nat.mul_succ, Nat.add_comm (entryLength * position), kept,
        ih (by simpa using found)]
      simp [Nat.add_assoc]

theorem ofImages_eq (images : List Image) :
    ofImages images = header images.length ++
      directory (headerLength + entryLength * images.length)
        (images.map fun image => (image.side, (frame image).length)) ++
      images.flatMap frame := by
  -- The frames are written from the images both times.
  simp [ofImages, List.flatMap_map, Function.comp_def]

theorem length_ofImages (images : List Image) :
    (ofImages images).length = startOf (frameLengths images) images.length := by
  -- Header, directory and all frames are what stands before the end.
  simp [ofImages_eq, startOf, frameLengths, length_directory, List.length_flatMap,
    List.take_of_length_le, Nat.add_assoc]

/-- The header of a file counts its frames. -/
theorem frameCount_ofImages {images : List Image} (few : images.length ≤ 65535) :
    frameCount (ofImages images) = images.length := by
  -- The count is the last number of the header, and two bytes are enough for it.
  have room : 4 + 2 ≤ (header images.length).length := by simp [headerLength]
  have fits : images.length < 256 ^ 2 := by omega
  rw [frameCount, ofImages_eq, List.append_assoc, numberAt, slice_append room]
  exact value_number fits

section Listed

variable {images : List Image} {position : Nat} {image : Image}
  (found : images[position]? = some image)
include found

/-- The frames up to one of them are no longer than all together. -/
theorem startOf_le :
    startOf (frameLengths images) position + (frame image).length ≤
      (ofImages images).length := by
  -- The frames before, this one and those behind it make up the file.
  obtain ⟨front, back, rfl, rfl⟩ := exists_front found
  rw [length_ofImages, startOf, startOf]
  simp [frameLengths, List.take_of_length_le, Nat.add_assoc]

/-- The entry of the directory for an image. -/
theorem slice_ofImages :
    slice (headerLength + entryLength * position) entryLength (ofImages images) =
      entry image.side (frame image).length (startOf (frameLengths images) position) := by
  have entries : (images.map fun image => (image.side, (frame image).length))[position]? =
      some (image.side, (frame image).length) := by
    rw [List.getElem?_map, found, Option.map_some]
  have inside : position < images.length := (List.getElem?_eq_some_iff.mp found).1
  have within : entryLength * position + entryLength ≤
      (directory (headerLength + entryLength * images.length)
        (images.map fun image => (image.side, (frame image).length))).length := by
    rw [length_directory, List.length_map, ← Nat.mul_succ]
    exact Nat.mul_le_mul_left _ inside
  -- The directory stands behind the header, and all its entries have one length.
  rw [ofImages_eq, slice_within (length_header _) within, slice_directory entries, startOf,
    frameLengths, List.length_map, List.map_map]
  rfl

/-- A number in the directory is read from the entry that it stands in. -/
theorem numberAt_ofImages {start width : Nat} (within : start + width ≤ entryLength) :
    numberAt (headerLength + entryLength * position + start) width (ofImages images) =
      numberAt start width
        (entry image.side (frame image).length (startOf (frameLengths images) position)) := by
  -- A number within an entry is read from the slice that the entry is.
  rw [numberAt, ← slice_slice within, slice_ofImages found, numberAt]

/-- Either byte of an entry for the side of a frame stands for it. -/
theorem sideOf_ofImages (positive : 1 ≤ image.side) (small : image.side ≤ 256) {place : Nat}
    (dimension : place < 2) :
    sideOf (numberAt (headerLength + entryLength * position + place) 1
      (ofImages images)).toUInt8 = image.side := by
  -- The entry has the side twice, in its first two bytes.
  have within : place + 1 ≤ entryLength := Nat.le_trans dimension (by decide)
  rw [numberAt_ofImages found within]
  match place, dimension with
  | 0, _ | 1, _ => exact (congrArg sideOf (numberAt_one rfl)).trans (sideOf_sideByte positive small)

/-- The directory lists an image with its side, and where its frame is. -/
theorem listedAt_ofImages (positive : 1 ≤ image.side) (small : image.side ≤ 256)
    (short : (ofImages images).length < 2 ^ 32) :
    listedAt (ofImages images) position =
      { side := image.side
        length := (frame image).length
        offset := startOf (frameLengths images) position } := by
  have ends := startOf_le found
  have lengthFits : (frame image).length < 256 ^ 4 := by omega
  have offsetFits : startOf (frameLengths images) position < 256 ^ 4 := by omega
  -- The three numbers stand at fixed places of the entry, and four bytes hold what the file is
  -- long.
  have side := sideOf_ofImages found positive small Nat.two_pos
  have length := (numberAt_ofImages found (by decide : 8 + 4 ≤ entryLength)).trans
    (value_number lengthFits)
  have offset := (numberAt_ofImages found (by decide : 12 + 4 ≤ entryLength)).trans
    (value_number offsetFits)
  rw [listedAt, length, offset, ← side, Nat.add_zero]

/-- The place where a frame starts is the end of what stands before it. -/
theorem slice_startOf :
    slice (startOf (frameLengths images) position) (frame image).length (ofImages images) =
      frame image := by
  obtain ⟨front, back, rfl, rfl⟩ := exists_front found
  -- Before it stand the header, the directory and the frames in front.
  rw [ofImages_eq, List.flatMap_append, List.flatMap_cons, ← List.append_assoc, ← List.append_assoc]
  refine slice_middle ?_ rfl
  simp [startOf, frameLengths, length_directory, List.length_flatMap, Nat.add_assoc]

end Listed

/-! ## Reading back -/

/-- The file of the emblem at some sides is read back: the directory counts the frames and tells the
side of each, and where its bytes stand; the frames follow the directory and each other up to the
end. -/
structure Decodes (sides : List Nat) (file : List UInt8) : Prop where
  count : frameCount file = sides.length
  side : ∀ position side, sides[position]? = some side → (listedAt file position).side = side
  square : ∀ position side, sides[position]? = some side →
    sideOf (numberAt (headerLength + entryLength * position + 1) 1 file).toUInt8 = side
  length : ∀ position side, sides[position]? = some side →
    (listedAt file position).length = (frame (Image.ofBytes side (Emblem.image side).bytes)).length
  selects : ∀ position side, sides[position]? = some side →
    frameAt file (listedAt file position) = frame (Image.ofBytes side (Emblem.image side).bytes)
  first : sides ≠ [] → (listedAt file 0).offset = headerLength + entryLength * sides.length
  next : ∀ position, position + 1 < sides.length → (listedAt file (position + 1)).offset =
    (listedAt file position).offset + (listedAt file position).length
  last : ∀ position, position + 1 = sides.length →
    (listedAt file position).offset + (listedAt file position).length = file.length

/-- A buffer is read back from a frame: its header tells the side and twice the side as the height,
the pixels are those of the buffer, and the mask has a bit for every pixel that is less than half
opaque and none in the padding that fills a row up to whole groups of four bytes. -/
structure ReadsBack (side : Nat) (buffer bytes : List UInt8) : Prop where
  start : numberAt 0 4 bytes = 40
  width : sideAt bytes = side
  height : numberAt 8 4 bytes = 2 * side
  pixels : (readImage bytes).bytes = buffer
  mask : ∀ column row, column < side → row < side → (maskAt bytes column row ↔
    ∃ alpha, buffer[4 * (side * row + column) + 3]? = some alpha ∧ alpha < 128)
  padding : ∀ column row, side ≤ column → column < 8 * maskWidth side → row < side →
    maskAt bytes column row = false
  padded : 4 ∣ maskWidth side ∧ side ≤ 8 * maskWidth side ∧ 8 * maskWidth side < side + 32
  length : bytes.length = maskStart side + maskWidth side * side

/-- The mask of a row is kept in as few groups of four bytes as hold it. -/
theorem maskWidth_bounds (side : Nat) :
    4 ∣ maskWidth side ∧ side ≤ 8 * maskWidth side ∧ 8 * maskWidth side < side + 32 := by
  -- Rounding up to groups of four bytes adds less than one group.
  refine ⟨Nat.dvd_mul_left 4 _, ?_, ?_⟩ <;> (rw [maskWidth]; omega)

/-- The drawn emblem fills its square. -/
theorem isSquare_emblem (side : Nat) : (Emblem.image side).isSquare := by
  -- It is drawn row by row and column by column up to its side.
  simp [Image.isSquare_iff, Emblem.image]

/-- How long the file of the emblem is depends on the sides alone. -/
theorem length_encode (sides : List Nat) :
    (encode sides).length =
      startOf (sides.map fun side => maskStart side + maskWidth side * side) sides.length := by
  -- A frame is as long as its side says.
  have lengths : (fun image => (frame image).length) ∘ Emblem.image =
      fun side => maskStart side + maskWidth side * side :=
    funext fun side => length_frame (isSquare_emblem side)
  rw [encode, length_ofImages, frameLengths, List.map_map, lengths, List.length_map]

/-- The file of the emblem is read back. -/
theorem decodes_encode {sides : List Nat} (few : sides.length ≤ 65535)
    (held : ∀ side ∈ sides, 1 ≤ side ∧ side ≤ 256) (short : (encode sides).length < 2 ^ 32) :
    Decodes sides (encode sides) := by
  have drawn : ∀ {position side}, sides[position]? = some side →
      (sides.map Emblem.image)[position]? = some (Emblem.image side) := fun found => by
    rw [List.getElem?_map, found, Option.map_some]
  -- What is drawn fills its square, and so its bytes are those of the same image.
  have bytes : ∀ side, Image.ofBytes side (Emblem.image side).bytes = Emblem.image side :=
    fun side => Image.ofBytes_bytes (isSquare_emblem side)
  have listed : ∀ {position side}, sides[position]? = some side →
      listedAt (encode sides) position =
        { side := side
          length := (frame (Emblem.image side)).length
          offset := startOf (frameLengths (sides.map Emblem.image)) position } := fun found =>
    have bounds := held _ (List.mem_of_getElem? found)
    listedAt_ofImages (drawn found) bounds.1 bounds.2 short
  have lengths : ∀ {position side}, sides[position]? = some side →
      (frameLengths (sides.map Emblem.image))[position]? =
        some (frame (Emblem.image side)).length := fun found => by
    rw [frameLengths, List.getElem?_map, drawn found, Option.map_some]
  exact
    { count := by
        rw [encode, frameCount_ofImages (by rwa [List.length_map]), List.length_map]
      side := fun position side found => congrArg Listed.side (listed found)
      square := fun position side found =>
        have bounds := held _ (List.mem_of_getElem? found)
        sideOf_ofImages (drawn found) bounds.1 bounds.2 Nat.one_lt_two
      length := fun position side found => by rw [listed found, bytes]
      selects := fun position side found => by
        rw [frameAt, listed found, bytes]
        exact slice_startOf (drawn found)
      first := fun some => by
        have found := List.getElem?_eq_getElem (List.length_pos_iff.mpr some)
        simp [listed found, startOf, frameLengths]
      next := fun position within => by
        have found := List.getElem?_eq_getElem (Nat.lt_of_succ_lt within)
        rw [listed found, listed (List.getElem?_eq_getElem within)]
        exact startOf_succ (lengths found)
      last := fun position ends => by
        have within : position < sides.length := by omega
        have found := List.getElem?_eq_getElem within
        -- One more frame would start where the file ends.
        rw [listed found, ← startOf_succ (lengths found), ends, encode, length_ofImages,
          List.length_map] }

/-- A pixel counts as transparent where its opacity is below one half. -/
theorem any_isTransparent (pixel : Option Pixel) :
    pixel.any isTransparent ↔ ∃ alpha, pixel.map Pixel.alpha = some alpha ∧ alpha < 128 := by
  -- Without a pixel both sides are false.
  cases pixel <;> simp [isTransparent]

/-- A buffer is read back from its frame. -/
theorem readsBack_frame {side : Nat} {buffer : List UInt8} (small : side ≤ 256)
    (whole : buffer.length = 4 * side * side) :
    ReadsBack side buffer (frame (Image.ofBytes side buffer)) := by
  -- The buffer makes a square image, whose frame holds its pixels and its mask.
  have square := Image.isSquare_ofBytes whole
  have half : (Image.ofBytes side buffer).side < 2 ^ 31 := Nat.lt_of_le_of_lt small (by decide)
  have fits : (Image.ofBytes side buffer).side < 2 ^ 32 := Nat.lt_trans half (by decide)
  have bounds := maskWidth_bounds side
  exact
    { start := by rw [numberAt_frame (by decide)]; rfl
      width := sideAt_frame fits
      height := heightAt_frame half
      pixels := by rw [readImage_frame square fits, Image.bytes_ofBytes whole]
      mask := fun column row across down => by
        have inside : column < 8 * maskWidth side := Nat.lt_of_lt_of_le across bounds.2.1
        have opacity := Image.alpha_ofBytes buffer across down
        rw [maskAt_frame square fits inside down, any_isTransparent, opacity]
      padding := fun _ _ outside inside down => maskAt_padding square fits outside inside down
      padded := bounds
      length := length_frame square }

/-- Icon files can be decoded. Whatever the sides are, as long as the header can count them and the
directory can tell where they are, each frame is found again as it was written; and whatever the
pixels are, they and their mask are found again in their frame. -/
theorem encode_decodes :
    (∀ sides : List Nat, sides.length ≤ 65535 → (∀ side ∈ sides, 1 ≤ side ∧ side ≤ 256) →
      (encode sides).length < 2 ^ 32 → Decodes sides (encode sides)) ∧
    ∀ (side : Nat) (buffer : List UInt8), 1 ≤ side → side ≤ 256 →
      buffer.length = 4 * side * side →
      ReadsBack side buffer (frame (Image.ofBytes side buffer)) :=
  -- The first half is about the file around the frames, the second about each frame.
  ⟨fun _ few held short => decodes_encode few held short,
    fun _ _ _ small whole => readsBack_frame small whole⟩

theorem encode_decodes_uneven :
    Decodes [1, 33, 256] (encode [1, 33, 256]) ∧
      ReadsBack 33 (List.replicate (4 * 33 * 33) 127)
        (frame (Image.ofBytes 33 (List.replicate (4 * 33 * 33) 127))) :=
  -- A side of 33 leaves 31 columns of padding in the mask.
  ⟨encode_decodes.1 [1, 33, 256] (by decide) (by decide) (by rw [length_encode]; decide),
    encode_decodes.2 33 _ (by decide) (by decide) List.length_replicate⟩

end DeviceBrowser.IconFile

/-! Glyphs: how far each character moves the pen along a line and where its ink lies. Glyphs are
measured in the units of their face; a line is typeset in dots. -/

namespace DeviceBrowser.Text

/-- Where ink lies, seen from the pen on the base line; heights go upwards. -/
structure Ink where
  left : Int
  right : Int
  bottom : Int
  top : Int
deriving DecidableEq

/-- A face of glyphs: the units of a size, those from the lowest to the highest place of a line, and
at how many percent of a size the glyphs are set. -/
structure Face where
  unit : Nat
  lineHeight : Nat
  percent : Nat
deriving DecidableEq

/-- The face of letters. -/
def letters : Face := ⟨1000, 1121, 100⟩

/-- The face of signs, such as pictures of things, which are set smaller than letters. -/
def signs : Face := ⟨2048, 2400, 81⟩

/-- The height of a line in dots, the nearest number of them. The size is in thousandths of a
dot. -/
def Face.dots (face : Face) (size : Nat) : Nat :=
  let whole := 100000 * face.unit
  (2 * size * face.lineHeight * face.percent + whole) / (2 * whole)

/-- A glyph: its face, how far it moves the pen, and its ink, if it has any. -/
structure Glyph where
  face : Face
  advance : Nat
  ink : Option Ink
deriving DecidableEq

/-- Letters, each with the letters that are drawn like it, marks aside. -/
def alikeTable : List (Char × String) := [
  ('a', "àáâãäåāăąа"), ('c', "çćčсє"), ('d', "ď"), ('e', "èéêëēęěеё"), ('g', "ğģ"),
  ('i', "ìíîïії"), ('j', "ј"), ('k', "ķκ"), ('l', "ĺľ"), ('n', "ñńňηή"), ('o', "òóôõöøōőоοό"),
  ('p', "рρ"), ('r', "ŕř"), ('s', "śşšѕ"), ('t', "ţť"), ('u', "ùúûüūůűμυύ"), ('v', "ν"),
  ('x', "х"), ('y', "ýÿуў"), ('z', "źżž"), ('A', "ÀÁÂÃÄÅĀĂĄАΑ"), ('B', "ВΒ"), ('C', "ÇĆČСЄ"),
  ('D', "ĎÐ"), ('E', "ÈÉÊËĒĘĚЕЁΕ"), ('G', "ĞĢ"), ('H', "НΗ"), ('I', "ÌÍÎÏİІЇΙ"), ('J', "Ј"),
  ('K', "КΚ"), ('L', "ŁĹĽ"), ('M', "МΜ"), ('N', "ÑŃŇΝ"), ('O', "ÒÓÔÕÖØŌŐОΟ"), ('P', "РΡ"),
  ('R', "ŔŘ"), ('S', "ŚŞŠЅ"), ('T', "ŢŤТΤ"), ('U', "ÙÚÛÜŪŮŰ"), ('X', "ХΧ"), ('Y', "ÝŸΥ"),
  ('Z', "ŹŻŽΖ"), ('и', "й"), ('г', "ґ"), ('И', "Й"), ('Г', "Ґ"), ('У', "Ў"), ('α', "ά"),
  ('ε', "έ"), ('ι', "ί"), ('ω', "ώ")]

/-- The letter whose glyph a character has, marks aside. -/
def plainLetter (c : Char) : Char :=
  match alikeTable.find? fun (_, alike) => alike.toList.contains c with
  | some (letter, _) => letter
  | none => c

/-- The advance of a character, and the left and the right end of its ink. -/
def widthTable : List (Char × Nat × Int × Int) := [
  ('a', 509, 43, 430), ('b', 580, 84, 526), ('c', 475, 53, 428), ('d', 581, 54, 497),
  ('e', 541, 53, 490), ('f', 362, 87, 368), ('g', 581, 54, 498), ('h', 564, 84, 486),
  ('i', 227, 71, 156), ('j', 227, -41, 155), ('k', 488, 84, 484), ('l', 261, 59, 209),
  ('m', 872, 84, 794), ('n', 564, 84, 486), ('o', 591, 55, 538), ('p', 581, 79, 528),
  ('q', 583, 56, 498), ('r', 359, 84, 356), ('s', 424, 36, 389), ('t', 383, 83, 367),
  ('u', 564, 79, 480), ('v', 467, 7, 459), ('w', 731, 8, 722), ('x', 467, -2, 466),
  ('y', 468, 5, 459), ('z', 457, 39, 423), ('A', 653, 9, 644), ('B', 662, 98, 614),
  ('C', 627, 58, 600), ('D', 706, 98, 647), ('E', 565, 98, 528), ('F', 540, 98, 515),
  ('G', 686, 57, 605), ('H', 705, 98, 606), ('I', 251, 98, 152), ('J', 485, 9, 401),
  ('K', 615, 98, 609), ('L', 504, 98, 489), ('M', 872, 85, 786), ('N', 718, 96, 617),
  ('O', 766, 57, 710), ('P', 578, 98, 532), ('Q', 766, 57, 711), ('R', 624, 98, 608),
  ('S', 522, 38, 484), ('T', 560, 13, 547), ('U', 676, 87, 589), ('V', 638, 5, 633),
  ('W', 904, 15, 889), ('X', 615, 10, 606), ('Y', 576, 5, 570), ('Z', 563, 45, 522),
  ('0', 563, 45, 511), ('1', 563, 91, 384), ('2', 563, 49, 466), ('3', 563, 39, 500),
  ('4', 563, 20, 543), ('5', 563, 51, 506), ('6', 563, 50, 512), ('7', 563, 45, 525),
  ('8', 563, 45, 518), ('9', 563, 51, 513), ('.', 254, 76, 175), (',', 231, 38, 165),
  (':', 254, 77, 175), (';', 232, 41, 150), ('!', 254, 85, 169), ('?', 385, 35, 350),
  ('\x27', 220, 81, 139), ('\x22', 392, 80, 313), ('\x60', 375, 80, 271), ('(', 318, 76, 317),
  (')', 318, 1, 243), ('[', 316, 91, 287), (']', 316, 30, 225), ('\x7b', 322, 20, 301),
  ('\x7d', 321, 20, 301), ('/', 349, 5, 344), ('\\', 348, 7, 347), ('|', 260, 105, 155),
  ('-', 301, 41, 260), ('_', 488, -10, 496), ('+', 564, 60, 504), ('<', 564, 49, 511),
  ('=', 564, 54, 509), ('>', 564, 56, 517), ('~', 564, 48, 516), ('^', 564, 45, 520),
  ('*', 460, 25, 435), ('#', 676, 39, 637), ('$', 563, 61, 500), ('%', 818, 44, 774),
  ('&', 654, 49, 624), ('@', 939, 58, 879), ('ı', 228, 83, 142), ('ß', 584, 86, 542),
  ('²', 361, 39, 321), ('æ', 850, 43, 800), ('œ', 930, 54, 880), ('þ', 581, 84, 528),
  ('ð', 585, 54, 531), ('Æ', 850, 0, 815), ('Œ', 1010, 57, 975), ('Þ', 590, 98, 545),
  ('б', 586, 55, 536), ('в', 537, 83, 495), ('г', 410, 84, 400), ('д', 609, 13, 594),
  ('ж', 702, 8, 693), ('з', 480, 30, 441), ('и', 593, 83, 510), ('к', 496, 83, 437),
  ('л', 563, 10, 479), ('м', 693, 83, 635), ('н', 584, 83, 501), ('п', 579, 84, 496),
  ('т', 441, 14, 428), ('ф', 769, 55, 714), ('ц', 601, 84, 582), ('ч', 537, 69, 453),
  ('ш', 816, 82, 738), ('щ', 830, 83, 814), ('ъ', 602, 12, 548), ('ы', 745, 84, 687),
  ('ь', 518, 84, 458), ('э', 474, 41, 424), ('ю', 800, 83, 750), ('я', 520, 39, 437),
  ('Б', 614, 98, 568), ('Г', 520, 98, 505), ('Д', 729, 15, 714), ('Ж', 861, 24, 832),
  ('З', 560, 38, 515), ('И', 724, 98, 626), ('Л', 690, 10, 593), ('П', 700, 98, 602),
  ('У', 599, 9, 591), ('Ф', 820, 50, 770), ('Ц', 737, 98, 717), ('Ч', 640, 79, 543),
  ('Ш', 981, 98, 883), ('Щ', 1011, 98, 990), ('Ъ', 720, 11, 671), ('Ы', 829, 98, 731),
  ('Ь', 610, 98, 560), ('Э', 630, 35, 570), ('Ю', 1031, 98, 977), ('Я', 619, 30, 521),
  ('№', 1000, 98, 950), ('α', 590, 54, 540), ('β', 580, 84, 530), ('γ', 470, 5, 465),
  ('δ', 575, 54, 521), ('ε', 460, 40, 425), ('ζ', 440, 40, 420), ('θ', 575, 54, 521),
  ('ι', 260, 80, 230), ('λ', 490, 10, 480), ('ξ', 450, 40, 420), ('π', 580, 20, 560),
  ('σ', 590, 54, 580), ('ς', 460, 54, 430), ('τ', 420, 15, 405), ('φ', 720, 54, 666),
  ('χ', 480, 5, 475), ('ψ', 740, 75, 665), ('ω', 800, 54, 746), ('Γ', 520, 98, 505),
  ('Δ', 660, 15, 645), ('Θ', 766, 57, 710), ('Λ', 640, 8, 632), ('Ξ', 570, 50, 520),
  ('Π', 700, 98, 602), ('Σ', 560, 45, 530), ('Φ', 820, 50, 770), ('Ψ', 780, 80, 700),
  ('Ω', 770, 50, 720), ('µ', 564, 84, 480), ('–', 500, 0, 500), ('—', 1000, 0, 1000),
  ('…', 762, 76, 683), ('‘', 218, 60, 150), ('’', 218, 60, 150), ('“', 380, 60, 315),
  ('”', 380, 60, 315), ('•', 330, 60, 270), ('«', 450, 40, 410), ('»', 450, 40, 410),
  ('¡', 254, 85, 169), ('¿', 385, 35, 350), ('©', 790, 45, 745), ('®', 790, 45, 745),
  ('™', 700, 20, 670), ('°', 350, 40, 310), ('·', 254, 76, 175), ('±', 564, 60, 504),
  ('×', 564, 60, 504), ('÷', 564, 60, 504), ('£', 563, 45, 520), ('€', 563, 25, 525),
  ('¥', 563, 20, 543), ('¢', 563, 80, 500), ('§', 480, 45, 435), ('⏵', 1000, 280, 600)]

/-- Bottom and top of the ink of the characters that lie otherwise than a capital letter. -/
def heightTable : List (Int × Int × String) := [
  (0, 530, "mnrvwxzıвгзиклмнптчшъыьэюяπτ"), (-12, 530, "aceosuæœαεισςω"), (-190, 530, "gpqyγχ"),
  (0, 780, "hk"), (-150, 530, "дцщ"), (-190, 780, "фþβζξφψ"), (-12, 780, "бðδθλ"),
  (-12, 780, "bdlß"), (0, 790, "f"), (-12, 650, "t"), (0, 730, "i"), (-190, 730, "j"),
  (-12, 705, "CGOSUJ035689&"), (-150, 705, "Q"), (-170, 790, "()[]/\\|\x7b\x7d"),
  (-12, 100, "."), (-130, 100, ","), (-12, 530, ":"), (-130, 530, ";"), (500, 790, "'\"`^*"),
  (230, 300, "-"), (-130, -80, "_"), (70, 500, "+<=>~"), (-90, 790, "$"), (-190, 705, "@"),
  (350, 705, "²")]

/-- How much higher than its letter a mark reaches. -/
def markHeight : Int := 200

/-- Characters below this one that are drawn like another letter carry a mark. -/
def firstUnmarked : Nat := 0x250

/-- The advance of a blank. -/
def blankAdvance : Nat := 227

/-- The advance of the characters that move the pen and have no ink. A tab takes the space of four
blanks, and a thin space that of half a blank. -/
def blankAdvance? (c : Char) : Option Nat :=
  if c = ' ' || c.toNat == 0xa0 then some blankAdvance
  else if c = '\t' then some (4 * blankAdvance)
  else if c.toNat == 0x2009 then some (blankAdvance / 2)
  else none

/-- The glyph of a character that no face has, such as a line break within a line: a box. -/
def boxGlyph : Glyph := ⟨letters, 986, some ⟨64, 922, -90, 790⟩⟩

/-- The glyph of another letter of an alphabet. -/
def letterGlyph : Glyph := ⟨letters, 563, some ⟨60, 503, -12, 705⟩⟩

/-- The glyph of a sign. -/
def signGlyph : Glyph := ⟨signs, 2550, some ⟨156, 2394, -380, 1980⟩⟩

/-- Characters from the first number to the second one belong to alphabets that have letters. -/
def letterRange : Nat × Nat := (0x21, 0x52f)

/-- Whether a character is drawn as a sign. -/
def isSign (c : Char) : Bool :=
  (0x2100 ≤ c.toNat && c.toNat < 0x2c00) || (0x1f000 ≤ c.toNat && c.toNat < 0x20000)

/-- The glyph of a character that is not in the table of widths. -/
def otherGlyph (c : Char) : Glyph :=
  if isSign c then signGlyph
  else if letterRange.1 ≤ c.toNat && c.toNat ≤ letterRange.2 then letterGlyph
  else boxGlyph

/-- Whether a character only steers how others are set. -/
def isFormatting (c : Char) : Bool :=
  c == '\r' || c.toNat == 0xFEFF || (0x200B ≤ c.toNat && c.toNat ≤ 0x200F) ||
    (0x202A ≤ c.toNat && c.toNat ≤ 0x202E) || (0x2060 ≤ c.toNat && c.toNat ≤ 0x206F)

/-- Bottom and top of the ink of a character. A mark comes on top of its letter. -/
def inkHeight (c : Char) : Int × Int :=
  let letter := plainLetter c
  let found := heightTable.find? fun (_, _, chars) => chars.toList.contains letter
  let (bottom, top) := match found with
    | some (bottom, top, _) => (bottom, top)
    | none => (0, 693)
  (bottom, if letter = c || firstUnmarked ≤ c.toNat then top else top + markHeight)

/-- The glyph of a character. -/
def glyph (c : Char) : Glyph :=
  let plain := plainLetter c
  if isFormatting c then ⟨letters, 0, none⟩
  else
    match blankAdvance? c, widthTable.find? fun (letter, _) => letter == plain with
    | some advance, _ => ⟨letters, advance, none⟩
    | none, some (_, advance, left, right) =>
      let (bottom, top) := inkHeight c
      ⟨letters, advance, some ⟨left, right, bottom, top⟩⟩
    | none, none => otherGlyph c

/-- The dots of a measure at a size, those only begun left out. -/
def Face.dotsDown (face : Face) (size : Nat) (measure : Int) : Int :=
  measure * face.dots size / face.lineHeight

/-- The dots of a measure at a size, those only begun counted too. -/
def Face.dotsUp (face : Face) (size : Nat) (measure : Int) : Int :=
  -face.dotsDown size (-measure)

/-- The whole dots by which a glyph moves the pen: the nearest number of them. -/
def penStep (size : Nat) (glyph : Glyph) : Nat :=
  let lineHeight := glyph.face.lineHeight
  (2 * glyph.advance * glyph.face.dots size + lineHeight) / (2 * lineHeight)

/-- The dots that some ink of a face touches when the pen stands at a place. -/
def Ink.dots (ink : Ink) (face : Face) (size pen : Nat) : Ink where
  left := pen + face.dotsDown size ink.left
  right := pen + face.dotsUp size ink.right
  bottom := face.dotsDown size ink.bottom
  top := face.dotsUp size ink.top

/-- All ink of two pieces, from end to end. -/
def Ink.union (first second : Ink) : Ink where
  left := min first.left second.left
  right := max first.right second.right
  bottom := min first.bottom second.bottom
  top := max first.top second.top

/-- All ink of two pieces that may have none. -/
def unionInk? : Option Ink → Option Ink → Option Ink
  | some first, some second => some (first.union second)
  | first, second => first.or second

/-- How many dots a line is wide. -/
def lineWidth (size : Nat) (chars : List Char) : Nat :=
  chars.foldr (fun c width => penStep size (glyph c) + width) 0

/-- The dots that a line touches when the pen starts at a place. -/
def lineInkFrom (size pen : Nat) : List Char → Option Ink
  | [] => none
  | c :: rest =>
    unionInk? ((glyph c).ink.map fun ink => ink.dots (glyph c).face size pen)
      (lineInkFrom size (pen + penStep size (glyph c)) rest)

/-- The dots that a line touches, if it has any ink. -/
def lineInk (size : Nat) (chars : List Char) : Option Ink := lineInkFrom size 0 chars

end DeviceBrowser.Text

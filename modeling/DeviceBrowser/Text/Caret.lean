import DeviceBrowser.Text.Glyph

/-! Carets and selections in a line of text: where a caret goes that is set at the middle of the
painted line, which word is selected there, and what replacing a selection leaves. -/

namespace DeviceBrowser.Text

/-- The characters of a line from one place to another, counted from its start. A caret is a
selection that ends where it begins. -/
structure Selection where
  first : Nat
  last : Nat
deriving DecidableEq

namespace Selection

/-- A caret at a place. -/
def caret (place : Nat) : Selection := ⟨place, place⟩

/-- The line with the selected characters replaced. -/
def replace (selection : Selection) (chars typed : List Char) : List Char :=
  chars.take selection.first ++ typed ++ chars.drop selection.last

/-- The caret behind the characters that replaced a selection. -/
def behind (selection : Selection) (typed : List Char) : Selection :=
  caret (selection.first + typed.length)

end Selection

/-- How many characters at the start of a line have their middle at or before a place, which is in
dots and doubled. The middle of a character lies halfway along its advance from the pen. -/
def middlesUpTo (size : Nat) (doubled : Int) (pen : Nat) : List Char → Nat
  | [] => 0
  | c :: rest =>
    let face := (glyph c).face
    if doubled * face.lineHeight < 2 * pen * face.lineHeight + (glyph c).advance * face.dots size
    then 0
    else middlesUpTo size doubled (pen + penStep size (glyph c)) rest + 1

/-- The place of a caret that is set at the middle of the ink of a line: between the characters
whose middles lie on the two sides of it. -/
def middlePlace (size : Nat) (chars : List Char) : Nat :=
  match lineInk size chars with
  | some ink => middlesUpTo size (ink.left + ink.right) 0 chars
  | none => 0

/-- The place of a caret that is set some dots behind the ink of a line. -/
def placeBehind (size : Nat) (gap : Int) (chars : List Char) : Nat :=
  match lineInk size chars with
  | some ink => middlesUpTo size (2 * (ink.right + gap)) 0 chars
  | none => 0

/-- Whether a character belongs to a word: the letters and digits of ASCII and the underscore do. -/
def isWordChar (c : Char) : Bool := c.isAlphanum || c == '_'

/-- How many characters at the start of a line are passed in one step: the first one whatever it is,
and then the word or the gap that begins with the second one. -/
def stepLength : List Char → Nat
  | [] => 0
  | [_] => 1
  | _ :: second :: rest =>
    (rest.takeWhile fun c => isWordChar c == isWordChar second).length + 2

/-- The place after one step forwards. -/
def nextStop (chars : List Char) (place : Nat) : Nat := place + stepLength (chars.drop place)

/-- The place after one step backwards. -/
def previousStop (chars : List Char) (place : Nat) : Nat :=
  place - stepLength (chars.take place).reverse

/-- The word at a place. With words on both sides of the place or on the left it reaches from stop
to stop, with a word on the right alone it begins at the place, and between gaps it reaches one step
to both sides. -/
def wordAt (chars : List Char) (place : Nat) : Selection :=
  let isWordAt := fun spot => (chars[spot]?.map isWordChar).getD false
  if place = 0 then ⟨0, nextStop chars 0⟩
  else if chars.length ≤ place then ⟨previousStop chars place, place⟩
  else if isWordAt (place - 1) then
    let first := previousStop chars (if isWordAt place then place + 1 else place)
    ⟨first, nextStop chars first⟩
  else if isWordAt place then ⟨place, nextStop chars place⟩
  else ⟨previousStop chars place, nextStop chars place⟩

end DeviceBrowser.Text

/-! JSON values as a document spells them: numbers keep their literal, and a string whose escapes
name half of a surrogate pair has no text. -/

namespace DeviceBrowser.Text

/-- A JSON value. Members of an object stay in their order, repeated names included. -/
inductive Json where
  | null
  | bool (value : Bool)
  | number (literal : List Char)
  | text (content : Option String)
  | array (items : List Json)
  | object (members : List (Option String × Json))

namespace Json

/-- Blanks that may stand between the tokens of a document. -/
def isGap (c : Char) : Bool :=
  c == ' ' || c == '\t' || c == '\n' || c == '\r'

/-- The integer of a number literal without fraction and exponent. Minus zero is no integer. -/
def integer? (literal : List Char) : Option Int :=
  let value := fun digits : List Char =>
    if !digits.isEmpty && digits.all Char.isDigit then
      some (digits.foldl (fun sum c => sum * 10 + (c.toNat - '0'.toNat)) 0)
    else none
  match literal with
  | '-' :: digits => (value digits).bind fun size => if size = 0 then none else some (-(size : Int))
  | digits => (value digits).map Int.ofNat

/-- The text of a string value. -/
def text? : Json → Option String
  | text content => content
  | _ => none

/-- The truth value of a boolean. -/
def bool? : Json → Option Bool
  | bool value => some value
  | _ => none

/-- The integer of a number between two bounds, the upper one excluded. -/
def integerIn? (low high : Int) : Json → Option Int
  | number literal =>
    (integer? literal).filter fun value => low ≤ value && value < high
  | _ => none

/-- The number that fits a byte. -/
def uint8? (json : Json) : Option UInt8 := (json.integerIn? 0 0x100).map UInt8.ofInt

/-- The number that fits 32 bits without a sign. -/
def uint32? (json : Json) : Option UInt32 := (json.integerIn? 0 0x100000000).map UInt32.ofInt

/-- The number that fits 32 bits with a sign. -/
def int32? (json : Json) : Option Int32 :=
  (json.integerIn? (-0x80000000) 0x80000000).map Int32.ofInt

/-- The number that fits 64 bits without a sign. -/
def uint64? (json : Json) : Option UInt64 :=
  (json.integerIn? 0 0x10000000000000000).map UInt64.ofInt

/-- The number that fits 64 bits with a sign. -/
def int64? (json : Json) : Option Int64 :=
  (json.integerIn? (-0x8000000000000000) 0x8000000000000000).map Int64.ofInt

end Json

end DeviceBrowser.Text

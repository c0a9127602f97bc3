import DeviceBrowser.Text.Json
import DeviceBrowser.Text.Numeral

/-! Reading a JSON document: strings with their escapes, numbers by their grammar, and nested values
of any depth. -/

namespace DeviceBrowser.Text.Json

/-- What one place of a string spells: a character, or a 16-bit unit given by an escape. -/
inductive StringPart where
  | char (c : Char)
  | unit (code : Nat)

/-- The character after a backslash that stands for one character. -/
def shortEscape? : Char → Option Char
  | '"' => some '"'
  | '\\' => some '\\'
  | '/' => some '/'
  | 'b' => some '\x08'
  | 'f' => some '\x0c'
  | 'n' => some '\n'
  | 'r' => some '\r'
  | 't' => some '\t'
  | _ => none

/-- Reads a string after its opening quote: its parts and what follows the closing quote. Control
characters must be escaped. -/
def readParts : List Char → Option (List StringPart × List Char)
  | [] => none
  | '"' :: rest => some ([], rest)
  | '\\' :: 'u' :: a :: b :: c :: d :: rest => do
    let code ← readHexFrom 0 [a, b, c, d]
    let (parts, after) ← readParts rest
    some (.unit code :: parts, after)
  | '\\' :: letter :: rest => do
    let c ← shortEscape? letter
    let (parts, after) ← readParts rest
    some (.char c :: parts, after)
  | c :: rest => do
    if c.toNat < 0x20 ∨ c = '\\' then none
    else
      let (parts, after) ← readParts rest
      some (.char c :: parts, after)

/-- Whether a unit is the first half of a surrogate pair. -/
def isHighHalf (code : Nat) : Bool := 0xd800 ≤ code && code < 0xdc00

/-- Whether a unit is the second half of a surrogate pair. -/
def isLowHalf (code : Nat) : Bool := 0xdc00 ≤ code && code < 0xe000

/-- The characters that the parts of a string spell; a half pair alone spells none. -/
def assemble : List StringPart → Option (List Char)
  | [] => some []
  | .char c :: rest => (assemble rest).map (c :: ·)
  | .unit high :: .unit low :: rest =>
    if isHighHalf high && isLowHalf low then
      (assemble rest).map (Char.ofNat (0x10000 + (high - 0xd800) * 0x400 + (low - 0xdc00)) :: ·)
    else if isHighHalf high || isLowHalf high then none
    else (assemble (.unit low :: rest)).map (Char.ofNat high :: ·)
  | .unit code :: rest =>
    if isHighHalf code || isLowHalf code then none
    else (assemble rest).map (Char.ofNat code :: ·)

/-- Reads a string after its opening quote: its text and what follows. -/
def readString (chars : List Char) : Option (Option String × List Char) := do
  let (parts, rest) ← readParts chars
  some ((assemble parts).map String.ofList, rest)

/-- Takes a non-empty run of digits off the front. -/
def takeDigits (chars : List Char) : Option (List Char × List Char) :=
  let digits := chars.takeWhile Char.isDigit
  if digits.isEmpty then none else some (digits, chars.dropWhile Char.isDigit)

/-- Reads the integer part of a number: zero alone, or digits that do not start with zero. -/
def readWhole : List Char → Option (List Char × List Char)
  | '0' :: rest =>
    match rest with
    | c :: _ => if c.isDigit then none else some (['0'], rest)
    | [] => some (['0'], [])
  | chars => takeDigits chars

/-- Reads a fraction if a point stands in front. -/
def readFraction : List Char → Option (List Char × List Char)
  | '.' :: rest => (takeDigits rest).map fun (digits, after) => ('.' :: digits, after)
  | chars => some ([], chars)

/-- Reads an exponent if its letter stands in front. -/
def readExponent : List Char → Option (List Char × List Char)
  | c :: rest =>
    if c = 'e' ∨ c = 'E' then
      match rest with
      | '+' :: digits => (takeDigits digits).map fun (run, after) => (c :: '+' :: run, after)
      | '-' :: digits => (takeDigits digits).map fun (run, after) => (c :: '-' :: run, after)
      | digits => (takeDigits digits).map fun (run, after) => (c :: run, after)
    else some ([], c :: rest)
  | [] => some ([], [])

/-- Reads a number without its sign. -/
def readUnsigned (chars : List Char) : Option (List Char × List Char) := do
  let (whole, rest) ← readWhole chars
  let (fraction, rest) ← readFraction rest
  let (exponent, rest) ← readExponent rest
  some (whole ++ fraction ++ exponent, rest)

/-- Reads a number literal and what follows it. -/
def readNumber : List Char → Option (List Char × List Char)
  | '-' :: rest => (readUnsigned rest).map fun (literal, after) => ('-' :: literal, after)
  | chars => readUnsigned chars

/-- Drops the gap before the next token. -/
def skipGap (chars : List Char) : List Char := chars.dropWhile isGap

/-- Drops a word off the front. -/
def dropWord? (word chars : List Char) : Option (List Char) :=
  if word.isPrefixOf chars then some (chars.drop word.length) else none

mutual

/-- Reads a value and what follows it. Each step into a value spends fuel; as many steps as there
are characters always suffice. -/
def readValue : Nat → List Char → Option (Json × List Char)
  | 0, _ => none
  | fuel + 1, chars =>
    match skipGap chars with
    | '"' :: rest => (readString rest).map fun (content, after) => (.text content, after)
    | '[' :: rest =>
      match skipGap rest with
      | ']' :: after => some (.array [], after)
      | items => (readItems fuel items).map fun (values, after) => (.array values, after)
    | '\x7b' :: rest =>
      match skipGap rest with
      | '\x7d' :: after => some (.object [], after)
      | members => (readMembers fuel members).map fun (named, after) => (.object named, after)
    | 'n' :: rest => (dropWord? "ull".toList rest).map fun after => (.null, after)
    | 't' :: rest => (dropWord? "rue".toList rest).map fun after => (.bool true, after)
    | 'f' :: rest => (dropWord? "alse".toList rest).map fun after => (.bool false, after)
    | other => (readNumber other).map fun (literal, after) => (.number literal, after)

/-- Reads the items of an array that is not empty, through its closing bracket. -/
def readItems : Nat → List Char → Option (List Json × List Char)
  | 0, _ => none
  | fuel + 1, chars => do
    let (value, rest) ← readValue fuel chars
    match skipGap rest with
    | ']' :: after => some ([value], after)
    | ',' :: after =>
      let (values, after) ← readItems fuel after
      some (value :: values, after)
    | _ => none

/-- Reads the members of an object that is not empty, through its closing brace. -/
def readMembers : Nat → List Char → Option (List (Option String × Json) × List Char)
  | 0, _ => none
  | fuel + 1, chars =>
    match skipGap chars with
    | '"' :: rest => do
      let (name, rest) ← readString rest
      match skipGap rest with
      | ':' :: rest =>
        let (value, rest) ← readValue fuel rest
        match skipGap rest with
        | '\x7d' :: after => some ([(name, value)], after)
        | ',' :: after =>
          let (members, after) ← readMembers fuel after
          some ((name, value) :: members, after)
        | _ => none
      | _ => none
    | _ => none

end

/-- Reads a whole document: one value with nothing but gaps around it. -/
def read? (document : String) : Option Json := do
  let chars := document.toList
  let (value, rest) ← readValue (2 * chars.length + 1) chars
  if (skipGap rest).isEmpty then some value else none

end DeviceBrowser.Text.Json

/-! Numerals: reading decimal integers within bounds, thousands groups, and hexadecimal digits. -/

namespace DeviceBrowser.Text

/-- The value of a decimal digit. -/
def digit? (c : Char) : Option Nat :=
  if '0' ≤ c ∧ c ≤ '9' then some (c.toNat - '0'.toNat) else none

/-- Reads decimal digits after a value already read; any other character refuses the whole. -/
def readDigitsFrom (value : Nat) : List Char → Option Nat
  | [] => some value
  | c :: rest => do readDigitsFrom (value * 10 + (← digit? c)) rest

/-- Reads a decimal natural number of at least one digit; leading zeros are allowed. -/
def readDigits : List Char → Option Nat
  | [] => none
  | chars => readDigitsFrom 0 chars

/-- Keeps a number that is below a limit. -/
def below (limit : Nat) (value : Nat) : Option Nat :=
  if value < limit then some value else none

/-- Reads a natural number below `limit`; one plus sign may stand in front. -/
def readNat (limit : Nat) (text : String) : Option Nat :=
  match text.toList with
  | '+' :: digits => readDigits digits >>= below limit
  | digits => readDigits digits >>= below limit

/-- Keeps a number that 64 bits with a sign can hold. -/
def within64 (value : Int) : Option Int :=
  if -0x8000000000000000 ≤ value ∧ value < 0x8000000000000000 then some value else none

/-- Reads an integer of 64 bits; one sign may stand in front. -/
def readInt64 (text : String) : Option Int :=
  match text.toList with
  | '+' :: digits => readDigits digits >>= fun value => within64 value
  | '-' :: digits => readDigits digits >>= fun value => within64 (-value)
  | digits => readDigits digits >>= fun value => within64 value

/-- The decimal digits of a number, the most significant first. -/
def decimalChars (value : Nat) : List Char :=
  Nat.toDigits 10 value

/-- A natural number in decimal. -/
def decimal (value : Nat) : String :=
  String.ofList (decimalChars value)

/-- The decimal characters of an integer, with a minus sign when it is negative. -/
def signedChars (value : Int) : List Char :=
  if value < 0 then '-' :: decimalChars value.natAbs else decimalChars value.natAbs

/-- An integer in decimal. -/
def signedDecimal (value : Int) : String :=
  String.ofList (signedChars value)

/-- Digits filled up with zeros in front to a least width. -/
def padLeft (width : Nat) (digits : List Char) : List Char :=
  List.replicate (width - digits.length) '0' ++ digits

/-- Characters with their places, and a comma in front of those at the places three, six and so
on. -/
def withCommas (placed : List (Char × Nat)) : List Char :=
  placed.flatMap fun (c, place) => if 0 < place ∧ place % 3 = 0 then [',', c] else [c]

/-- Decimal digits with a comma between every three, counted from the last one. -/
def groupedChars (value : Nat) : List Char :=
  if value < 1000 then decimalChars value
  else (withCommas (decimalChars value).reverse.zipIdx).reverse

/-- A count with thousands separators. -/
def grouped (value : Nat) : String :=
  String.ofList (groupedChars value)

/-- The lower-case hexadecimal digit of a value below sixteen. -/
def hexDigit (value : Nat) : Char :=
  if value < 10 then Char.ofNat ('0'.toNat + value) else Char.ofNat ('a'.toNat + (value - 10))

/-- The lowest `width` hexadecimal digits of a number, the most significant first. -/
def hexChars : Nat → Nat → List Char
  | 0, _ => []
  | width + 1, value => hexChars width (value / 16) ++ [hexDigit (value % 16)]

/-- The value of a hexadecimal digit in either case. -/
def hexDigit? (c : Char) : Option Nat :=
  if '0' ≤ c ∧ c ≤ '9' then some (c.toNat - '0'.toNat)
  else if 'a' ≤ c ∧ c ≤ 'f' then some (c.toNat - 'a'.toNat + 10)
  else if 'A' ≤ c ∧ c ≤ 'F' then some (c.toNat - 'A'.toNat + 10)
  else none

/-- Reads hexadecimal digits after a value already read. -/
def readHexFrom (value : Nat) : List Char → Option Nat
  | [] => some value
  | c :: rest => do readHexFrom (value * 16 + (← hexDigit? c)) rest

/-- Bytes as pairs of lower-case hexadecimal digits. -/
def bytesHex (bytes : List UInt8) : List Char :=
  bytes.flatMap fun byte => hexChars 2 byte.toNat

end DeviceBrowser.Text

import DeviceBrowser.Text.Fields
import DeviceBrowser.Text.Numeral

/-! Globally unique identifiers: 128 bits, their texts, and reading the four accepted spellings. -/

namespace DeviceBrowser

open Text

/-- An identifier of 128 bits, the first byte of its text being the most significant. -/
structure Guid where
  bits : BitVec 128
deriving DecidableEq, Inhabited

namespace Guid

/-- The numbers of hexadecimal digits in the five groups of the hyphenated text. -/
def groupSizes : List Nat := [8, 4, 4, 4, 12]

/-- The 32 lower-case hexadecimal digits, without hyphens. -/
def digits (guid : Guid) : List Char :=
  hexChars 32 guid.bits.toNat

/-- Cuts a list into groups of the given sizes. -/
def groups : List Nat → List Char → List (List Char)
  | [], _ => []
  | size :: sizes, chars => chars.take size :: groups sizes (chars.drop size)

/-- The lower-case text in five groups. -/
def hyphenated (guid : Guid) : String :=
  join "-" ((groups groupSizes guid.digits).map String.ofList)

/-- The upper-case text in braces. -/
def braced (guid : Guid) : String :=
  "\x7b" ++ String.ofList (guid.hyphenated.toList.map Char.toUpper) ++ "\x7d"

/-- Reads exactly 32 hexadecimal digits. -/
def ofDigits? (chars : List Char) : Option Guid :=
  if chars.length = 32 then (readHexFrom 0 chars).map fun value => ⟨BitVec.ofNat 128 value⟩
  else none

/-- Reads five groups of digits between hyphens. -/
def ofHyphenated? (chars : List Char) : Option Guid :=
  let pieces := splitChars '-' chars
  if pieces.map List.length = groupSizes then ofDigits? pieces.flatten else none

/-- The head of a uniform resource name, which may stand before the hyphenated form. -/
def urnHead : List Char := "urn:uuid:".toList

/-- Whether a text starts with the head of a uniform resource name, in upper or lower case. -/
def hasUrnHead (chars : List Char) : Bool :=
  (chars.take urnHead.length).map Char.toLower == urnHead

/-- Reads an identifier: 32 digits, five hyphenated groups, those in braces, or those after the
head of a uniform resource name. -/
def ofText? (text : String) : Option Guid :=
  match text.toList with
  | '\x7b' :: rest =>
    if rest.getLast? = some '\x7d' then ofHyphenated? rest.dropLast else none
  | chars =>
    if hasUrnHead chars then ofHyphenated? (chars.drop urnHead.length)
    else (ofDigits? chars).or (ofHyphenated? chars)

/-- The order of identifiers is that of their bytes, the first byte first. -/
def compare (left right : Guid) : Ordering :=
  Ord.compare left.bits.toNat right.bits.toNat

instance : Ord Guid := ⟨compare⟩

end Guid

end DeviceBrowser

import DeviceBrowser.Property.Class
import DeviceBrowser.Guid
import DeviceBrowser.FileTime

/-! Property values, their display text, and properties: a kind with or without a value. -/

namespace DeviceBrowser

open Text

variable [Zone]

/-- A value of a property; its constructor is its kind. -/
inductive Value where
  | text (content : String)
  | textList (entries : List String)
  | uint32 (number : UInt32)
  | int32 (number : Int32)
  | uint64 (number : UInt64)
  | int64 (number : Int64)
  | guid (guid : Guid)
  | flag (on : Bool)
  | time (time : FileTime)
  | bytes (content : List UInt8)
  | status (code : Int32)
deriving DecidableEq, Inhabited

namespace Value

/-- The kind of a value. -/
def kind : Value → Kind
  | text _ => .text
  | textList _ => .textList
  | uint32 _ => .uint32
  | int32 _ => .int32
  | uint64 _ => .uint64
  | int64 _ => .int64
  | guid _ => .guid
  | flag _ => .flag
  | time _ => .time
  | bytes _ => .bytes
  | status _ => .status

/-- How many bytes of a binary value are shown. -/
def shownBytes : Nat := 64

/-- Bytes in hexadecimal; a long run is cut and followed by the number of all its bytes. -/
def bytesText (content : List UInt8) : String :=
  String.ofList (bytesHex (content.take shownBytes)) ++
    if shownBytes < content.length then "... (" ++ decimal content.length ++ " bytes)" else ""

/-- A status code as eight upper-case hexadecimal digits. -/
def statusText (code : Int32) : String :=
  "0x" ++ String.ofList ((hexChars 8 code.toUInt32.toNat).map Char.toUpper)

/-- The text that displays a value. -/
def display : Value → String
  | text content => content
  | textList entries => join ", " entries
  | uint32 number => decimal number.toNat
  | int32 number => signedDecimal number.toInt
  | uint64 number => decimal number.toNat
  | int64 number => signedDecimal number.toInt
  | guid id => id.braced
  | flag on => if on then "true" else "false"
  | time ticks => ticks.text
  | bytes content => bytesText content
  | status code => statusText code

end Value

/-- A property: the kind fixed by its class, and a value when the device has one. -/
structure Property where
  kind : Kind
  value : Option Value
deriving DecidableEq, Inhabited

namespace Property

/-- A property without a value. -/
def absent (kind : Kind) : Property := ⟨kind, none⟩

/-- A property that holds a value of the value's own kind. -/
def holding (value : Value) : Property := ⟨value.kind, some value⟩

/-- Whether there is a value. -/
def isValid (property : Property) : Bool := property.value.isSome

/-- The display text: that of the value, and nothing without one. -/
def text (property : Property) : String :=
  match property.value with
  | some value => value.display
  | none => ""

/-- The flag: off unless the value is a flag that is on. -/
def isOn (property : Property) : Bool := property.value == some (.flag true)

/-- The value when it is a 32-bit number. -/
def uint32? (property : Property) : Option UInt32 :=
  match property.value with
  | some (.uint32 number) => some number
  | _ => none

/-- The value when it is an identifier. -/
def guid? (property : Property) : Option Guid :=
  match property.value with
  | some (.guid id) => some id
  | _ => none

/-- The value when it is a time. -/
def time? (property : Property) : Option FileTime :=
  match property.value with
  | some (.time ticks) => some ticks
  | _ => none

/-- The entries of a list value; empty for any other. -/
def entries (property : Property) : List String :=
  match property.value with
  | some (.textList entries) => entries
  | _ => []

end Property

end DeviceBrowser

import DeviceBrowser.Text.Numeral

/-! Printing JSON: quoted strings, and an object of one line per member. -/

namespace DeviceBrowser.Text.Json

/-- How a character is written inside quotes: the quote, the backslash and control characters are
escaped, all else stands for itself. -/
def escape (c : Char) : List Char :=
  if c = '"' then ['\\', '"']
  else if c = '\\' then ['\\', '\\']
  else if c = '\x08' then ['\\', 'b']
  else if c = '\x0c' then ['\\', 'f']
  else if c = '\n' then ['\\', 'n']
  else if c = '\r' then ['\\', 'r']
  else if c = '\t' then ['\\', 't']
  else if c.toNat < 0x20 then '\\' :: 'u' :: hexChars 4 c.toNat
  else [c]

/-- A text between quotes. -/
def quote (text : String) : List Char :=
  '"' :: text.toList.flatMap escape ++ ['"']

/-- The members of an object on lines of their own, indented by two spaces. -/
def memberLines : List (String × List Char) → List Char
  | [] => []
  | [(name, value)] => "\n  ".toList ++ quote name ++ ": ".toList ++ value ++ ['\n']
  | (name, value) :: rest =>
    "\n  ".toList ++ quote name ++ ": ".toList ++ value ++ ',' :: memberLines rest

/-- An object whose members' values are already written; an empty one is a pair of braces. -/
def printObject (members : List (String × List Char)) : String :=
  String.ofList ('\x7b' :: memberLines members ++ ['\x7d'])

end DeviceBrowser.Text.Json

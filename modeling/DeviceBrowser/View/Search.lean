import DeviceBrowser.Device
import DeviceBrowser.Text.Blank

/-! Searching: a term that is not blank, and the devices whose shown columns hold it. -/

namespace DeviceBrowser

open Text

variable [Zone]

/-- A search term as it was typed, and what is looked for: the term without the blanks around it,
in lower case. -/
structure SearchTerm where
  typed : String
  needle : String
deriving DecidableEq

namespace SearchTerm

/-- The term of a typed text; a blank text is none. -/
def ofText? (typed : String) : Option SearchTerm :=
  let trimmed := trim typed
  if trimmed.isEmpty then none else some ⟨typed, lower trimmed⟩

/-- Whether a text holds the term. An empty text never does. -/
def isIn (term : SearchTerm) (text : String) : Bool :=
  !text.isEmpty && containsIgnoringCase text term.needle

/-- Whether a device's text in a column holds the term: the display name in the column of names,
else the property's text, if there is a value. -/
def matchesCell (term : SearchTerm) (device : Device) (cls : PropertyClass) : Bool :=
  if cls = .name then term.isIn device.name
  else (device.property cls).isValid && term.isIn (device.property cls).text

/-- Whether one of a device's columns holds the term. -/
def matchesDevice (term : SearchTerm) (columns : List PropertyClass) (device : Device) : Bool :=
  columns.any (term.matchesCell device)

/-- Whether two terms, or none, look for the same text as typed. -/
def isSame (left right : Option SearchTerm) : Bool :=
  left.map (trim ·.typed) == right.map (trim ·.typed)

end SearchTerm

end DeviceBrowser

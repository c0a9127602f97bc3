import DeviceBrowser.Property.Class
import DeviceBrowser.Text.Blank
import DeviceBrowser.Text.Fields
import DeviceBrowser.Text.Numeral

/-! Columns: which property classes the view shows side by side, and how that is stored. -/

namespace DeviceBrowser

open Text

/-- The classes shown as columns, from left to right. -/
structure Columns where
  shown : List PropertyClass
deriving DecidableEq

namespace Columns

/-- The columns a new user finds. -/
def standard : Columns := ⟨PropertyClass.all.filter (·.facts.shownAtFirst)⟩

/-- Whether a class has a column. -/
def shows (columns : Columns) (cls : PropertyClass) : Bool := columns.shown.contains cls

/-- Shows a class as the last column, or hides its column. Nothing comes of a request that changes
nothing or would hide the names. -/
def change? (columns : Columns) (cls : PropertyClass) (visible : Bool) : Option Columns :=
  match visible, columns.shows cls with
  | true, false => some ⟨columns.shown ++ [cls]⟩
  | false, true =>
    if cls = .name then none else some ⟨columns.shown.filter (· != cls)⟩
  | _, _ => none

/-- The stored form: the positions of the classes between commas. -/
def setting (columns : Columns) : String :=
  join "," (columns.shown.map fun cls => decimal cls.index)

/-- The class that an entry of the stored form names. -/
def entryClass? (entry : String) : Option PropertyClass :=
  (readNat 0x10000000000000000 (trim entry)).bind PropertyClass.ofIndex?

/-- The classes with one more at the end, unless it is there. -/
def append (classes : List PropertyClass) (cls : PropertyClass) : List PropertyClass :=
  if classes.contains cls then classes else classes ++ [cls]

/-- Reads the stored form. The names always come first, other classes once each where they come
first; entries that name no class are skipped. A form that names nothing stands for the standard
columns, unless it starts with a zero. -/
def ofSetting (setting : String) : Columns :=
  let classes := ((split ',' setting).filterMap entryClass?).foldl append [.name]
  if classes.length = 1 ∧ (trim setting).toList.head? ≠ some '0' then standard else ⟨classes⟩

end Columns

end DeviceBrowser

import DeviceBrowser.Fault
import DeviceBrowser.Inventory.Dump

/-! Sources of inventories: a source hands out numbered editions, and a new number tells that the
inventory may have changed. One source holds a fixed inventory, another reads a dump file and keeps
what it read until the file's time changes. -/

namespace DeviceBrowser

/-- An inventory as a source handed it out. Two editions of one source are the same exactly when
their numbers are; the number zero belongs to no source. -/
structure Edition where
  number : Nat
  inventory : Inventory
deriving Inhabited

namespace Edition

/-- The empty edition that comes from no source. -/
def none : Edition := ⟨0, .empty⟩

/-- The edition after this one. -/
def succeededBy (edition : Edition) (inventory : Inventory) : Edition :=
  ⟨edition.number + 1, inventory⟩

/-- Whether two editions are the same. -/
def isSame (left right : Edition) : Bool := left.number == right.number

end Edition

/-- What stands at the path of a dump file, with the time of its last change. -/
inductive DumpFile where
  | missing
  | directory
  | file (content : ByteArray) (modified : Int)

namespace DumpFile

/-- When the file changed last; unknown when there is none. -/
def modified? : DumpFile → Option Int
  | file _ modified => some modified
  | _ => none

/-- Loads the inventory of a dump file. -/
def load : DumpFile → Except Fault Inventory
  | missing => .error .dumpUnreadable
  | directory => .error .dumpUnreadable
  | file content _ =>
    match String.fromUTF8? content with
    | none => .error .dumpUnreadable
    | some document =>
      match Dump.read? document with
      | none => .error .dumpMalformed
      | some dump => .ok dump.inventory

end DumpFile

/-- What a reader of a dump file has handed out last, and the file's time at that loading. -/
structure DumpReader where
  edition : Edition
  modified : Option Int
  loaded : Bool

namespace DumpReader

/-- A reader that has not loaded yet. -/
def start : DumpReader := ⟨⟨1, .empty⟩, none, false⟩

/-- The edition after an attempt to load: a failure empties the inventory, and keeps the edition
when it was empty already. -/
def renew (edition : Edition) : Except Fault Inventory → Edition
  | .ok inventory => edition.succeededBy inventory
  | .error _ =>
    if edition.inventory.size = 0 then edition else edition.succeededBy .empty

/-- The current edition: what was loaded last, unless loading is forced or the file's time is
another than at the last loading. -/
def take (reader : DumpReader) (file : DumpFile) (force : Bool) : Edition × DumpReader :=
  if reader.loaded && !force && file.modified? == reader.modified then (reader.edition, reader)
  else
    let edition := renew reader.edition file.load
    (edition, ⟨edition, file.modified?, true⟩)

end DumpReader

/-- A source of inventories. -/
inductive Source where
  | fixed (edition : Edition)
  | dump (file : DumpFile) (reader : DumpReader)

namespace Source

/-- A source that holds one inventory. -/
def holding (inventory : Inventory) : Source := .fixed ⟨1, inventory⟩

/-- A source that reads a dump file. -/
def reading (file : DumpFile) : Source := .dump file .start

/-- The current edition and the source after it was asked. -/
def take (source : Source) (force : Bool) : Edition × Source :=
  match source with
  | fixed edition => (edition, source)
  | dump file reader =>
    let (edition, reader) := reader.take file force
    (edition, .dump file reader)

/-- The source once it holds another inventory. A source that reads a file stays as it is. -/
def replace (source : Source) (inventory : Inventory) : Source :=
  match source with
  | fixed edition => .fixed (edition.succeededBy inventory)
  | dump _ _ => source

/-- The source once its dump file is another. A source with a fixed inventory stays as it is. -/
def withFile (source : Source) (file : DumpFile) : Source :=
  match source with
  | fixed _ => source
  | dump _ reader => .dump file reader

end Source

end DeviceBrowser

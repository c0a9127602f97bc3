import DeviceBrowser.Browser
import DeviceBrowser.Text.Csv

/-! Export: the listed devices as a table of comma-separated records. -/

namespace DeviceBrowser

variable [Zone]

namespace Snapshot

/-- The records of nodes: the titles of the columns, then one record for each node. -/
def records (snapshot : Snapshot) (nodes : List Nat) (columns : List PropertyClass) :
    List (List String) :=
  columns.map (·.title) :: nodes.map fun number => columns.map (snapshot.cellText number)

/-- The table of nodes that a writer of records makes: the number of its rows and its text. -/
def tableWith (record : List String → List Char) (snapshot : Snapshot) (nodes : List Nat)
    (columns : List PropertyClass) : Nat × String :=
  (nodes.length, Text.Csv.writeWith record (snapshot.records nodes columns))

/-- The table of nodes: the number of its rows and its text. -/
def table (snapshot : Snapshot) (nodes : List Nat) (columns : List PropertyClass) :
    Nat × String :=
  snapshot.tableWith Text.Csv.writeRecord nodes columns

end Snapshot

namespace Browser

/-- The table of the visible nodes; before anything is on display it has no rows. -/
def exported (browser : Browser) : Nat × String :=
  let columns := browser.listing.columns.shown
  match browser.snapshot? with
  | some snapshot => snapshot.table browser.displayOrder columns
  | none => Snapshot.empty.table [] columns

/-- Exports the table to a file that can be made, or cannot. -/
def exportTo (browser : Browser) (writable : Bool) : Except Fault (Nat × String) :=
  if writable then .ok browser.exported else .error .exportNotOpened

end Browser

end DeviceBrowser

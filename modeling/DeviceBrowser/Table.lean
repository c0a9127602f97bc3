/-! Tables: keys with one value each, kept in the order of the keys. -/

namespace DeviceBrowser

/-- Rows of a key and a value, in ascending order of the keys. -/
structure Table (κ α : Type) where
  rows : List (κ × α)

namespace Table

variable {κ α : Type} [Ord κ] [BEq κ]

/-- A table without rows. -/
def empty : Table κ α := ⟨[]⟩

/-- The value of a key. -/
def find? (table : Table κ α) (key : κ) : Option α :=
  (table.rows.find? fun row => row.1 == key).map (·.2)

/-- Rows with one more key at its place in the order, or with the value of a key replaced. -/
def insertRow (key : κ) (value : α) : List (κ × α) → List (κ × α)
  | [] => [(key, value)]
  | row :: rest =>
    match compare key row.1 with
    | .lt => (key, value) :: row :: rest
    | .eq => (key, value) :: rest
    | .gt => row :: insertRow key value rest

/-- The table in which a key has a value. -/
def insert (table : Table κ α) (key : κ) (value : α) : Table κ α :=
  ⟨insertRow key value table.rows⟩

/-- The table without the rows whose keys fail a test. -/
def retain (table : Table κ α) (keep : κ → Bool) : Table κ α :=
  ⟨table.rows.filter fun row => keep row.1⟩

/-- The number of rows. -/
def size (table : Table κ α) : Nat := table.rows.length

end Table

end DeviceBrowser

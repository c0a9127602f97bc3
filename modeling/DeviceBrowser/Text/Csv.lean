/-! Comma-separated records: writing fields with their quotes, and reading the records back. -/

namespace DeviceBrowser.Text.Csv

/-- Whether a field has to stand in quotes: it holds a comma, a quote or a line end. -/
def needsQuotes (field : List Char) : Bool :=
  field.any fun c => c == ',' || c == '"' || c == '\n' || c == '\r'

/-- Quotes inside a quoted field are doubled. -/
def double (field : List Char) : List Char :=
  field.flatMap fun c => if c = '"' then ['"', '"'] else [c]

/-- A field as it is written. -/
def writeField (field : List Char) : List Char :=
  if needsQuotes field then '"' :: double field ++ ['"'] else field

/-- Fields with commas between them. -/
def writeFields : List (List Char) → List Char
  | [] => []
  | [field] => writeField field
  | field :: rest => writeField field ++ ',' :: writeFields rest

/-- A record and its line end. A record that would be an empty line is a pair of quotes. -/
def writeRecord (fields : List String) : List Char :=
  match writeFields (fields.map String.toList) with
  | [] => ['"', '"', '\n']
  | line => line ++ ['\n']

/-- Records one after the other, each as a writer of records has it. -/
def writeWith (record : List String → List Char) (records : List (List String)) : String :=
  String.ofList (records.flatMap record)

/-- Records one after the other. -/
def write (records : List (List String)) : String := writeWith writeRecord records

/-- Where a reader of records stands: at the start of a record or of a later field, in a field
without quotes or in quotes, or behind a quote inside quotes. -/
inductive Place where
  | recordStart
  | fieldStart
  | bare
  | quoted
  | closing
deriving DecidableEq

/-- What has been read of a document: the records that are complete, and of the one that is not the
fields that are and the characters of the next, all in reverse. -/
structure Reading where
  place : Place
  records : List (List String)
  fields : List String
  field : List Char

namespace Reading

/-- Nothing has been read. -/
def start : Reading := ⟨.recordStart, [], [], []⟩

/-- Adds a character to the field under way. -/
def push (state : Reading) (c : Char) : Reading := { state with field := c :: state.field }

/-- Ends the field under way at a comma, and the record with it at a newline. -/
def close? (state : Reading) (c : Char) : Option Reading :=
  let fields := String.ofList state.field.reverse :: state.fields
  if c = ',' then some ⟨.fieldStart, state.records, fields, []⟩
  else if c = '\n' then some ⟨.recordStart, fields.reverse :: state.records, [], []⟩
  else none

/-- Reads a character outside quotes. -/
def plain? (state : Reading) (c : Char) : Option Reading :=
  if needsQuotes [c] then state.close? c else some { state.push c with place := .bare }

/-- Reads a character. Where readers differ there is no answer: at a quote in a field without
quotes, at other text behind a quoted field, at a carriage return outside quotes and at an empty
line. -/
def step? (state : Reading) (c : Char) : Option Reading :=
  match state.place with
  | .recordStart =>
    if c = '"' then some { state with place := .quoted }
    else if c = '\n' then none
    else state.plain? c
  | .fieldStart => if c = '"' then some { state with place := .quoted } else state.plain? c
  | .bare => state.plain? c
  | .quoted => some (if c = '"' then { state with place := .closing } else state.push c)
  -- A second quote makes one of the two; with anything else the field was over.
  | .closing => if c = '"' then some { state.push c with place := .quoted } else state.close? c

end Reading

/-- Reads the records of a document: fields end at commas and records at newlines outside quotes,
and two quotes inside quotes are one. Every record has to end. -/
def read? (document : String) : Option (List (List String)) := do
  let state ← document.toList.foldlM Reading.step? .start
  if state.place = .recordStart then some state.records.reverse else none

end DeviceBrowser.Text.Csv

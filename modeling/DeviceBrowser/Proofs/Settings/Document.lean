import DeviceBrowser.Proofs.Table
import DeviceBrowser.Proofs.Text.Json
import DeviceBrowser.Settings.Store

/-! The document of settings reads back as the settings that it was written from, and so a store
that was written opens again as it was, with any library that writes and reads the JSON grammar. -/

namespace DeviceBrowser

open Text

namespace Setting

/-- What a setting is in the document. -/
def json : Setting → Json
  | integer value => .number (signedChars value.toInt)
  | text content => .text (some content)

/-- A written setting reads back as what it is in the document. -/
theorem reads_written (setting : Setting) : Json.Reads setting.written setting.json := by
  -- Integers are written as literals and texts in quotes, and each of them reads back.
  cases setting with
  | integer value => exact Json.reads_signedChars value.toInt
  | text content => exact Json.reads_quote content

/-- A setting is told from what it is in the document: only numbers are integers. -/
@[simp] theorem ofJson?_json (setting : Setting) : ofJson? setting.json = some setting := by
  -- A text in the document stays a text, even one that looks like a number.
  cases setting with
  | integer value => simp [json, ofJson?, Json.int64?_signedChars]
  | text content => rfl

end Setting

/-- What is asked of a library: its printer writes JSON for the members in their order, with numbers
for the integers and strings for the texts, and its parser reads whatever is JSON. -/
structure JsonLibrary.Conforms (library : JsonLibrary) : Prop where
  prints : ∀ rows, Json.read? (library.print rows) =
    some (.object (rows.map fun row => (some row.1, row.2.json)))
  parses : ∀ document json, Json.read? document = some json → library.parse document = some json

/-- The printer and the reader at hand conform. -/
theorem JsonLibrary.conforms_standard : JsonLibrary.standard.Conforms where
  -- What is printed reads back, and parsing reads any document by the grammar.
  prints _ := Json.read?_printObject fun row _ => row.2.reads_written
  parses _ _ read := read

namespace Settings

/-- Members that are settings under their names are read one after the other. -/
theorem ofMembers?_rows (rows : List (String × Setting)) :
    ofMembers? (rows.map fun row => (some row.1, row.2.json)) =
      some (rows.foldl (fun settings row => settings.insert row.1 row.2) .empty) := by
  -- By induction on the rows, with the settings read so far as what both start from.
  rw [ofMembers?]
  generalize (Table.empty : Settings) = settings
  induction rows generalizing settings with
  | nil => rfl
  | cons row rest ih => simpa using ih (settings.insert row.1 row.2)

/-- Settings read back from what a library prints of them. -/
theorem ofDocumentWith?_print {library : JsonLibrary} (conforms : library.Conforms)
    {settings : Settings} (ascending : settings.Ascending) :
    ofDocumentWith? library (library.print settings.rows) = some settings := by
  -- The document reads back as the rows, and inserting them in their order gives the settings.
  have parsed := conforms.parses _ _ (conforms.prints settings.rows)
  rw [ofDocumentWith?, parsed]
  simp only [ofMembers?_rows, ascending.foldl_insert]

/-- The names ascend in settings that were read from members. -/
theorem ascending_of_ofMembers? {members : List (Option String × Json)} {settings : Settings}
    (read : ofMembers? members = some settings) : settings.Ascending := by
  -- Each member that is read is inserted at its place.
  have kept : ∀ (members : List (Option String × Json)) (before after : Settings),
      before.Ascending → members.foldlM (fun settings member => do
        some (settings.insert (← member.1) (← Setting.ofJson? member.2))) before = some after →
      after.Ascending := by
    intro members
    induction members with
    | nil =>
      rintro before after ascending ⟨⟩
      exact ascending
    | cons member rest ih =>
      intro before after ascending read
      obtain ⟨between, first, later⟩ := Option.bind_eq_some_iff.mp read
      obtain ⟨name, _, first⟩ := Option.bind_eq_some_iff.mp first
      obtain ⟨setting, _, ⟨⟩⟩ := Option.bind_eq_some_iff.mp first
      exact ih _ _ (ascending.insert name setting) later
  exact kept members _ _ Table.ascending_empty read

/-- The names ascend in settings that were read from a document. -/
theorem ascending_of_ofDocumentWith? {library : JsonLibrary} {document : String}
    {settings : Settings} (read : ofDocumentWith? library document = some settings) :
    settings.Ascending := by
  -- Only an object is read as settings, and inserting keeps the names in order.
  rw [ofDocumentWith?] at read
  split at read
  · exact ascending_of_ofMembers? read
  · cases read

end Settings

namespace SettingsStore

/-- A store that was opened has its place and no change, and the names in it ascend. -/
theorem eq_of_openAt {place : Place} {store : SettingsStore} (opened : openAt place = .ok store) :
    store = ⟨store.settings, some place, false⟩ ∧ store.settings.Ascending := by
  -- A place opens when it is vacant, holds a blank file, or holds a document of settings.
  rw [openAt, openWith.eq_def] at opened
  split at opened
  · cases opened
    exact ⟨rfl, Table.ascending_empty⟩
  · split at opened
    · cases opened
      exact ⟨rfl, Table.ascending_empty⟩
    · split at opened
      · rename_i settings read
        cases opened
        exact ⟨rfl, Settings.ascending_of_ofDocumentWith? read⟩
      · cases opened
  · cases opened
  · cases opened

/-- The file that a library prints opens as the settings it was printed of. -/
theorem openWith_print {library : JsonLibrary} (conforms : library.Conforms) {settings : Settings}
    (ascending : settings.Ascending) :
    openWith library (.file (library.print settings.rows)) =
      .ok ⟨settings, some (.file (library.print settings.rows)), false⟩ := by
  -- What reads as an object is not blank.
  have filled : isBlankText (library.print settings.rows) = false := by
    rw [Bool.eq_false_iff]
    intro blank
    have read := conforms.prints settings.rows
    rw [Json.read?_of_blank blank] at read
    cases read
  rw [openWith]
  simp only [filled, Settings.ofDocumentWith?_print conforms ascending]
  rfl

/-- Writing settings that changed with a library succeeds if nothing hinders it, and what was
written opens as the very settings: under every name the same integer, text and switch are found. -/
theorem opens_written_with {library : JsonLibrary} (conforms : library.Conforms)
    {store : SettingsStore} {place : Place} (kept : store.place = some place)
    (changed : store.changed = true) (ascending : store.settings.Ascending) :
    (store.flushWith library .written).1 = .ok () ∧ ∃ written reopened,
      (store.flushWith library .written).2.place = some written ∧
      openWith library written = .ok reopened ∧
      reopened.settings = store.settings ∧ ∀ name,
        reopened.settings.integer? name = store.settings.integer? name ∧
        reopened.settings.text? name = store.settings.text? name ∧
        reopened.settings.flag? name = store.settings.flag? name := by
  -- There is a place, the settings changed and nothing hinders the writing, so the document stands
  -- there.
  have after : store.flushWith library .written = (.ok (), { store with
      place := some (.file (library.print store.settings.rows)), changed := false }) := by
    rw [flushWith.eq_def, kept, changed]
    rfl
  rw [after]
  exact ⟨rfl, _, _, rfl, openWith_print conforms ascending, rfl, fun _ => ⟨rfl, rfl, rfl⟩⟩

/-- Writing settings that changed succeeds if nothing hinders it, and what was written opens as the
very settings: under every name the same integer, text and switch are found. -/
theorem opens_written {store : SettingsStore} {place : Place} (kept : store.place = some place)
    (changed : store.changed = true) (ascending : store.settings.Ascending) :
    (store.flushBy .written).1 = .ok () ∧ ∃ written reopened,
      (store.flushBy .written).2.place = some written ∧ openAt written = .ok reopened ∧
      reopened.settings = store.settings ∧ ∀ name,
        reopened.settings.integer? name = store.settings.integer? name ∧
        reopened.settings.text? name = store.settings.text? name ∧
        reopened.settings.flag? name = store.settings.flag? name :=
  -- The library at hand conforms.
  opens_written_with JsonLibrary.conforms_standard kept changed ascending

/-- Settings with the least integer, with a text that spells a number, and with all that must be
escaped. -/
def intricate : Settings :=
  ⟨[("", .integer Int64.minValue), ("a\"\\b\x01", .text " +12"),
    ("größe 😀", .text "\x00\n\t\\u0031")]⟩

/-- Intricate settings are written to a vacant place, and found there again. -/
theorem opens_written_intricate : ∃ written reopened,
    (flush ⟨intricate, some .vacant, true⟩).2.place = some written ∧
      openAt written = .ok reopened ∧
      reopened.settings.integer? "" = some Int64.minValue ∧
      reopened.settings.integer? "a\"\\b\x01" = some 12 ∧
      reopened.settings.text? "a\"\\b\x01" = some " +12" ∧
      reopened.settings.text? "größe 😀" = some "\x00\n\t\\u0031" ∧
      reopened.settings.flag? "b" = none := by
  obtain ⟨_, written, reopened, isWritten, opened, _, same⟩ :=
    @opens_written ⟨intricate, some .vacant, true⟩ .vacant rfl rfl
      (by unfold Table.Ascending; decide +kernel)
  -- What the reopened settings hold is looked up in the settings that were written.
  refine ⟨written, reopened, isWritten, opened, ?_, ?_, ?_, ?_, ?_⟩
  · rw [(same _).1]
    decide +kernel
  · rw [(same _).1]
    decide +kernel
  · rw [(same _).2.1]
    decide +kernel
  · rw [(same _).2.1]
    decide +kernel
  · rw [(same _).2.2]
    decide +kernel

end SettingsStore

end DeviceBrowser

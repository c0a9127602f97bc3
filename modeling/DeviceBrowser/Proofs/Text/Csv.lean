import DeviceBrowser.Text.Csv

/-! Records that were written are read back one by one, whatever the characters of their fields, and
whatever the writer quotes beyond what has to be. -/

namespace DeviceBrowser.Text.Csv

/-! ## What a writer keeps to -/

/-- How a field may be written: in quotes, with its own quotes doubled, or as it is where it needs
none. -/
inductive Spells (field : List Char) : List Char → Prop
  | quoted : Spells field ('"' :: double field ++ ['"'])
  | bare (plain : needsQuotes field = false) : Spells field field

/-- How the fields of a record may be written: with commas between them. -/
inductive SpellsAll : List (List Char) → List Char → Prop
  | last {field text : List Char} (spells : Spells field text) : SpellsAll [field] text
  | more {field text line : List Char} {rest : List (List Char)} (spells : Spells field text)
      (further : SpellsAll rest line) : SpellsAll (field :: rest) (text ++ ',' :: line)

/-- What is asked of a writer of records: it quotes the fields that need it, doubles their quotes,
puts commas between fields and a newline behind them, and writes a record of one empty field as two
quotes. -/
structure Writes (record : List String → List Char) : Prop where
  line : ∀ fields, fields ≠ [] → fields ≠ [""] →
    ∃ text, SpellsAll (fields.map String.toList) text ∧ record fields = text ++ ['\n']
  alone : record [""] = ['"', '"', '\n']

/-- A field is written in one of these ways. -/
theorem spells_writeField (field : List Char) : Spells field (writeField field) := by
  -- Quotes are written where they are needed, and a field may be quoted or bare just so.
  rw [writeField]
  cases needed : needsQuotes field with
  | true => exact .quoted
  | false => exact .bare needed

/-- So are the fields of a record. -/
theorem spellsAll_writeFields (field : List Char) (rest : List (List Char)) :
    SpellsAll (field :: rest) (writeFields (field :: rest)) := by
  -- Behind each field but the last stands a comma.
  induction rest generalizing field with
  | nil => exact .last (spells_writeField field)
  | cons next rest ih => exact .more (spells_writeField field) (ih next)

/-- Only a single field without characters may be written as nothing. -/
theorem SpellsAll.eq_of_nil {fields : List (List Char)} (spells : SpellsAll fields []) :
    fields = [[]] := by
  -- Quotes and commas are characters, which leaves a single bare field.
  generalize isNil : ([] : List Char) = text at spells
  cases spells with
  | last spells =>
    cases spells with
    | quoted => cases isNil
    | bare => rw [← isNil]
  | more => exact absurd isNil.symm (by simp)

/-- The records of this library are written as is asked. -/
theorem writes_writeRecord : Writes writeRecord where
  line fields present filled := by
    obtain ⟨field, rest, rfl⟩ := List.exists_cons_of_ne_nil present
    have spells := spellsAll_writeFields field.toList (rest.map String.toList)
    refine ⟨_, spells, ?_⟩
    rw [writeRecord]
    split
    · -- Fields that are written as nothing are one without characters.
      rename_i nothing
      rw [List.map_cons] at nothing
      rw [nothing] at spells
      obtain ⟨isEmpty, isLast⟩ := List.cons.inj spells.eq_of_nil
      cases String.toList_eq_nil_iff.mp isEmpty
      cases List.map_eq_nil_iff.mp isLast
      exact absurd rfl filled
    · rfl
  alone := rfl

/-! ## Reading what was written -/

/-- A field needs no quotes if none of its characters does. -/
theorem needsQuotes_cons_eq_false {c : Char} {field : List Char} :
    needsQuotes (c :: field) = false ↔ needsQuotes [c] = false ∧ needsQuotes field = false := by
  -- A field needs quotes as soon as one of its characters does.
  simp [needsQuotes]

section Fields

variable (records : List (List String)) (fields : List String)

/-- Inside quotes, a field with its quotes doubled is read as it is. -/
theorem read_double (before field : List Char) :
    (double field).foldlM Reading.step? ⟨.quoted, records, fields, before⟩ =
      some ⟨.quoted, records, fields, field.reverse ++ before⟩ := by
  induction field generalizing before with
  | nil => rfl
  | cons c rest ih =>
    rw [double, List.flatMap_cons, ← double, List.foldlM_append]
    by_cases isQuote : c = '"'
    · -- The first quote would end the field, and the second makes it one of the field's.
      subst isQuote
      simpa [Reading.step?, Reading.push] using ih ('"' :: before)
    · simpa [isQuote, Reading.step?, Reading.push] using ih (c :: before)

/-- Outside quotes, a field that needs none is read as it is. -/
theorem read_bare (before : List Char) {field : List Char} (plain : needsQuotes field = false) :
    field.foldlM Reading.step? ⟨.bare, records, fields, before⟩ =
      some ⟨.bare, records, fields, field.reverse ++ before⟩ := by
  -- What ends a field outside quotes is among the characters that need them.
  induction field generalizing before with
  | nil => rfl
  | cons c rest ih =>
    obtain ⟨head, tail⟩ := needsQuotes_cons_eq_false.mp plain
    simpa [Reading.step?, Reading.plain?, Reading.push, head] using ih (c :: before) tail

/-- A field may start at a place when a character follows: an empty line is no record. -/
def Place.Starts (place : Place) (next : Char) : Prop :=
  place = .fieldStart ∨ place = .recordStart ∧ next ≠ '\n'

variable {place : Place}

/-- A quote opens a field. -/
theorem step?_quote (starts : place.Starts '"') :
    Reading.step? ⟨place, records, fields, []⟩ '"' = some ⟨.quoted, records, fields, []⟩ := by
  -- At the start of a line and of a field a quote means the same.
  rcases starts with rfl | ⟨rfl, _⟩ <;> rfl

/-- Any other character is the first of a field without quotes, or ends an empty one. -/
theorem step?_plain {c : Char} (starts : place.Starts c) (other : c ≠ '"') :
    Reading.step? ⟨place, records, fields, []⟩ c =
      Reading.plain? ⟨place, records, fields, []⟩ c := by
  -- At the start of a line, what would make a blank line has been ruled out.
  rcases starts with rfl | ⟨rfl, notLine⟩
  · simp [Reading.step?, other]
  · simp [Reading.step?, other, notLine]

/-- A field is read up to the comma or the newline behind it. -/
theorem Spells.read {field text : List Char} (spells : Spells field text) {stop : Char}
    (stops : stop = ',' ∨ stop = '\n')
    (starts : ∀ next ∈ (text ++ [stop]).head?, place.Starts next) :
    (text ++ [stop]).foldlM Reading.step? ⟨place, records, fields, []⟩ =
      Reading.close? ⟨.bare, records, fields, field.reverse⟩ stop := by
  have isMark : needsQuotes [stop] = true := by rcases stops with rfl | rfl <;> rfl
  have notQuote : stop ≠ '"' := by rcases stops with rfl | rfl <;> decide
  cases spells with
  | quoted =>
    -- Between the outer quotes stands the field with its own quotes doubled.
    rw [List.cons_append, List.cons_append, List.append_assoc, List.foldlM_cons,
      step?_quote _ _ (starts '"' rfl), Option.bind_eq_bind, Option.bind_some, List.foldlM_append,
      read_double]
    simp [Reading.step?, Reading.close?, notQuote]
  | bare plain =>
    cases field with
    | nil =>
      -- An empty field ends at its first character, which is the one behind it.
      rw [List.nil_append, List.foldlM_cons, step?_plain _ _ (starts stop rfl) notQuote,
        Reading.plain?, if_pos isMark]
      simp [Reading.close?]
    | cons c rest =>
      obtain ⟨head, tail⟩ := needsQuotes_cons_eq_false.mp plain
      have other : c ≠ '"' := by
        rintro rfl
        cases head
      rw [List.cons_append, List.foldlM_cons, step?_plain _ _ (starts c rfl) other,
        Reading.plain?, if_neg (by simp [head]), Option.bind_eq_bind, Option.bind_some,
        List.foldlM_append, Reading.push, read_bare _ _ _ tail]
      simp [Reading.step?, Reading.plain?, isMark]

/-- Fields are read up to the newline behind them, and make a record. -/
theorem SpellsAll.read {written : List (List Char)} {line : List Char}
    (spells : SpellsAll written line)
    (starts : ∀ next ∈ (line ++ ['\n']).head?, place.Starts next) :
    (line ++ ['\n']).foldlM Reading.step? ⟨place, records, fields, []⟩ =
      some ⟨.recordStart, (fields.reverse ++ written.map String.ofList) :: records, [], []⟩ := by
  -- Only the first field may start a record, so the place is general in the induction.
  induction spells generalizing fields place with
  | last spells =>
    rw [spells.read _ _ (.inr rfl) starts]
    simp [Reading.close?]
  | @more field text line rest spells _ ih =>
    -- The comma behind the first field is where the second starts.
    have split : text ++ ',' :: line ++ ['\n'] = (text ++ [',']) ++ (line ++ ['\n']) := by simp
    rw [split] at starts ⊢
    have startsFirst : ∀ next ∈ (text ++ [',']).head?, place.Starts next := by
      intro next first
      apply starts
      rw [List.head?_append, Option.mem_def.mp first]
      rfl
    rw [List.foldlM_append, spells.read _ _ (.inl rfl) startsFirst]
    simpa [Reading.close?] using ih (String.ofList field :: fields) fun _ _ => .inl rfl

/-- No field starts with a newline as it is written. -/
theorem Spells.head?_ne {field text : List Char} (spells : Spells field text) {c : Char}
    (first : c ∈ text.head?) : c ≠ '\n' := by
  -- A field in quotes starts with one, and a newline would have put it there.
  cases spells with
  | quoted =>
    cases first
    decide
  | bare plain =>
    cases field with
    | nil => cases first
    | cons d rest =>
      cases first
      rintro rfl
      cases (needsQuotes_cons_eq_false.mp plain).1

/-- No line of fields starts with a newline. -/
theorem SpellsAll.head?_ne {written : List (List Char)} {line : List Char}
    (spells : SpellsAll written line) {c : Char} (first : c ∈ line.head?) : c ≠ '\n' := by
  cases spells with
  | last spells => exact spells.head?_ne first
  | @more _ text _ _ spells _ =>
    rw [List.head?_append] at first
    cases isFirst : text.head? with
    | none =>
      -- Behind an empty field the line starts with the comma.
      rw [isFirst] at first
      cases first
      decide
    | some d =>
      rw [isFirst] at first
      cases first
      exact spells.head?_ne isFirst

/-- A record that was written is read as it was, and leaves the reader at the start of the next. -/
theorem Writes.read {record : List String → List Char} (writes : Writes record)
    {fields : List String} (nonempty : fields ≠ []) :
    (record fields).foldlM Reading.step? ⟨.recordStart, records, [], []⟩ =
      some ⟨.recordStart, fields :: records, [], []⟩ := by
  by_cases single : fields = [""]
  · -- Two quotes stand for the record of one field that is empty.
    rw [single, writes.alone]
    rfl
  · obtain ⟨line, spells, isWritten⟩ := writes.line fields nonempty single
    have starts : ∀ next ∈ (line ++ ['\n']).head?, Place.recordStart.Starts next := by
      intro next first
      rw [List.head?_append] at first
      cases isFirst : line.head? with
      | none =>
        -- A line that is empty would be that of the single empty field.
        rw [List.head?_eq_none_iff.mp isFirst] at spells
        refine absurd ?_ single
        simpa using spells.eq_of_nil
      | some c =>
        rw [isFirst] at first
        cases first
        exact .inr ⟨rfl, spells.head?_ne isFirst⟩
    rw [isWritten, spells.read _ _ starts]
    simp

end Fields

/-- Records that were written are read as they were, whatever is in their fields. -/
theorem Writes.read?_writeWith {record : List String → List Char} (writes : Writes record)
    {records : List (List String)} (nonempty : ∀ fields ∈ records, fields ≠ []) :
    read? (writeWith record records) = some records := by
  -- Each record is read on top of those before it.
  have general : ∀ (pending : List (List String)), (∀ fields ∈ pending, fields ≠ []) →
      ∀ before : List (List String),
        (pending.flatMap record).foldlM Reading.step? ⟨.recordStart, before, [], []⟩ =
          some ⟨.recordStart, pending.reverse ++ before, [], []⟩ := by
    intro pending
    induction pending with
    | nil =>
      intro _ before
      rfl
    | cons fields rest ih =>
      intro nonempty before
      obtain ⟨head, tail⟩ := List.forall_mem_cons.mp nonempty
      rw [List.flatMap_cons, List.foldlM_append, writes.read before head,
        Option.bind_eq_bind, Option.bind_some, ih tail]
      simp
  simp [read?, writeWith, Reading.start, general records nonempty []]

end DeviceBrowser.Text.Csv

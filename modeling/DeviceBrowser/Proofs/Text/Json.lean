import DeviceBrowser.Proofs.Text.Numeral
import DeviceBrowser.Text.Json.Printer
import DeviceBrowser.Text.Json.Reader

/-! Printed JSON reads back: strings whatever their characters, integers whatever their size, and
objects whose members are of such values. -/

namespace DeviceBrowser.Text.Json

/-! ## Strings -/

/-- One place of a string stands for a character, whatever comes behind it. -/
def StringPart.Spells (part : StringPart) (c : Char) : Prop :=
  ∀ more, assemble (part :: more) = (assemble more).map (c :: ·)

/-- A character stands for itself. -/
theorem StringPart.spells_char (c : Char) : (char c).Spells c := fun _ => rfl

/-- A unit below the surrogates stands for the character of that code. -/
theorem StringPart.spells_unit {c : Char} (low : c.toNat < 0xd800) : (unit c.toNat).Spells c := by
  have noHigh : isHighHalf c.toNat = false := by
    simp only [isHighHalf, Bool.and_eq_false_iff, decide_eq_false_iff_not]
    omega
  have noLow : isLowHalf c.toNat = false := by
    simp only [isLowHalf, Bool.and_eq_false_iff, decide_eq_false_iff_not]
    omega
  -- It starts no pair with what comes behind it.
  intro more
  cases more with
  | nil => simp [assemble, noHigh, noLow]
  | cons next rest => cases next <;> simp [assemble, noHigh, noLow]

variable {rest after : List Char} {parts : List StringPart}

/-- A short escape is read as the character it stands for. -/
theorem readParts_short {letter c : Char} (short : shortEscape? letter = some c)
    (read : readParts rest = some (parts, after)) :
    readParts ('\\' :: letter :: rest) = some (.char c :: parts, after) := by
  -- The letter is not that of an escape of four digits, which is tried first.
  have noUnit : letter ≠ 'u' := by
    rintro rfl
    simp [shortEscape?] at short
  rw [readParts]
  · simp [short, read]
  · intro a b c d rest isUnit _
    exact noUnit isUnit

/-- An escape of four digits is read as a unit. -/
theorem readParts_unit {code : Nat} (small : code < 0x10000)
    (read : readParts rest = some (parts, after)) :
    readParts ('\\' :: 'u' :: hexChars 4 code ++ rest) = some (.unit code :: parts, after) := by
  -- Four digits hold any number below 0x10000, and reading them back gives its remainder.
  have digits := readHexFrom_hexChars 4 code 0
  simp only [hexChars, List.nil_append, List.cons_append, readParts] at digits ⊢
  rw [digits]
  simp [read, Nat.mod_eq_of_lt small]

/-- A character that needs no escape is read as itself. -/
theorem readParts_plain {c : Char} (noQuote : c ≠ '"') (noEscape : c ≠ '\\')
    (noControl : ¬ c.toNat < 0x20) (read : readParts rest = some (parts, after)) :
    readParts (c :: rest) = some (.char c :: parts, after) := by
  -- It neither ends the string nor starts an escape.
  rw [readParts]
  · simp [noControl, noEscape, read]
  · exact noQuote
  · intro a b c d rest isEscape _
    exact noEscape isEscape
  · intro letter rest isEscape _
    exact noEscape isEscape

/-- A character that was escaped is read as one place that stands for it. -/
theorem readParts_escape (c : Char) (read : readParts rest = some (parts, after)) :
    ∃ part, part.Spells c ∧ readParts (escape c ++ rest) = some (part :: parts, after) := by
  have short : ∀ {letter}, shortEscape? letter = some c → ∃ part, part.Spells c ∧
      readParts (['\\', letter] ++ rest) = some (part :: parts, after) :=
    fun named => ⟨_, StringPart.spells_char c, readParts_short named read⟩
  by_cases quote : c = '"'
  · subst c
    exact short rfl
  by_cases backslash : c = '\\'
  · subst c
    exact short rfl
  rw [escape, if_neg quote, if_neg backslash]
  -- Five control characters have short escapes as well.
  iterate 5
    split
    · subst c
      exact short rfl
  split
  · rename_i control
    exact ⟨_, StringPart.spells_unit (by omega), readParts_unit (by omega) read⟩
  · rename_i noControl
    exact ⟨_, StringPart.spells_char c, readParts_plain quote backslash noControl read⟩

/-- Characters that were escaped are read as places that stand for them. -/
theorem readParts_escaped (chars rest : List Char) :
    ∃ parts, assemble parts = some chars ∧
      readParts (chars.flatMap escape ++ '"' :: rest) = some (parts, rest) := by
  -- By induction on the characters: one more character is escaped into one more place.
  induction chars with
  | nil => exact ⟨[], rfl, by simp [readParts]⟩
  | cons c others ih =>
    obtain ⟨parts, spelled, read⟩ := ih
    obtain ⟨part, spells, readFirst⟩ := readParts_escape c read
    refine ⟨part :: parts, by simp [spells parts, spelled], ?_⟩
    rw [List.flatMap_cons, List.append_assoc, readFirst]

/-- A quoted text reads back, whatever follows it. -/
theorem readString_quote (text : String) (rest : List Char) :
    quote text ++ rest = '"' :: (text.toList.flatMap escape ++ '"' :: rest) ∧
      readString (text.toList.flatMap escape ++ '"' :: rest) = some (some text, rest) := by
  -- The closing quote ends the places, which stand for the characters between.
  obtain ⟨parts, spelled, read⟩ := readParts_escaped text.toList rest
  refine ⟨by simp [quote], ?_⟩
  simp [readString, read, spelled]

/-! ## Numbers -/

/-- No other number than zero starts with a zero. -/
theorem head?_decimalChars {value : Nat} (nonzero : value ≠ 0) :
    (decimalChars value).head? ≠ some '0' := by
  -- The first digit is that of the number without its last digit, down to a single digit.
  induction value using Nat.strongRecOn with
  | ind value ih =>
    rw [decimalChars, Nat.toDigits_eq_if (by decide)]
    split
    · rename_i single
      intro zero
      have noZero : ∀ digit < 10, digit ≠ 0 → [Nat.digitChar digit].head? ≠ some '0' := by decide
      exact noZero value single nonzero zero
    · rename_i more
      have front := ih (value / 10) (by omega) (by omega)
      obtain ⟨first, others, digits⟩ :=
        List.exists_cons_of_ne_nil (decimalChars_ne_nil (value / 10))
      rw [decimalChars] at digits front
      rw [digits] at front ⊢
      exact front

/-- Digits in front of anything else are taken off. -/
theorem takeDigits_append {digits : List Char} (filled : digits ≠ [])
    (all : ∀ c ∈ digits, c.isDigit = true) {stop : Char} (noDigit : stop.isDigit = false)
    (rest : List Char) : takeDigits (digits ++ stop :: rest) = some (digits, stop :: rest) := by
  -- The run of digits ends at the first character that is none.
  rw [takeDigits, List.takeWhile_append_of_pos all, List.dropWhile_append_of_pos all,
    List.takeWhile_cons_of_neg (by simp [noDigit]), List.dropWhile_cons_of_neg (by simp [noDigit])]
  simp [filled]

/-- What may follow a number directly: no digit, no point and no letter of an exponent. -/
structure Stops (stop : Char) : Prop where
  noDigit : stop.isDigit = false
  noPoint : stop ≠ '.'
  noExponent : ¬ (stop = 'e' ∨ stop = 'E')

/-- A comma may follow a number. -/
theorem stops_comma : Stops ',' :=
  -- It is no digit and neither opens a fraction nor an exponent.
  ⟨rfl, by decide, by decide⟩

/-- The end of a line may follow a number. -/
theorem stops_newline : Stops '\n' :=
  -- It is no digit and neither opens a fraction nor an exponent.
  ⟨rfl, by decide, by decide⟩

variable {stop : Char}

/-- A number in decimal is read as a whole number. -/
theorem readWhole_decimalChars (stops : Stops stop) (value : Nat) (rest : List Char) :
    readWhole (decimalChars value ++ stop :: rest) = some (decimalChars value, stop :: rest) := by
  -- A zero stands alone, and no other number starts with one.
  by_cases zero : value = 0
  · subst zero
    simp [decimalChars, readWhole, stops.noDigit]
  · have taken := takeDigits_append (decimalChars_ne_nil value)
      (fun c member => isDigit_of_mem_decimalChars member) stops.noDigit rest
    obtain ⟨first, others, digits⟩ := List.exists_cons_of_ne_nil (decimalChars_ne_nil value)
    have noZero : first ≠ '0' := by
      intro isZero
      exact head?_decimalChars zero (by rw [digits, isZero]; rfl)
    rw [digits] at taken ⊢
    rw [List.cons_append, readWhole]
    · exact taken
    · intro tail starts
      exact noZero (List.cons.inj starts).1

/-- An integer in decimal is read as a number. -/
theorem readNumber_signedChars (stops : Stops stop) (value : Int) (rest : List Char) :
    readNumber (signedChars value ++ stop :: rest) = some (signedChars value, stop :: rest) := by
  -- Neither a fraction nor an exponent goes on behind the digits.
  have unsigned : readUnsigned (decimalChars value.natAbs ++ stop :: rest) =
      some (decimalChars value.natAbs, stop :: rest) := by
    rw [readUnsigned, readWhole_decimalChars stops]
    simp [readFraction, stops.noPoint, readExponent, stops.noExponent]
  rw [signedChars]
  split
  · rw [List.cons_append, readNumber, unsigned]
    rfl
  · rw [readNumber]
    · exact unsigned
    · exact decimalChars_append_ne_cons (by decide) _ _

/-- The digits of a number add up to it. -/
theorem foldl_decimalChars (value : Nat) :
    (decimalChars value).foldl (fun sum c => sum * 10 + (c.toNat - '0'.toNat)) 0 = value := by
  -- The sum is the core library's, with the factors the other way round.
  simp only [Nat.mul_comm _ 10]
  exact Nat.ofDigitChars_ten_toDigits

/-- The integer of a literal in decimal. -/
theorem integer?_signedChars (value : Int) : integer? (signedChars value) = some value := by
  have digits : (!(decimalChars value.natAbs).isEmpty &&
      (decimalChars value.natAbs).all Char.isDigit) = true := by
    simp only [Bool.and_eq_true, Bool.not_eq_true', List.isEmpty_eq_false_iff, List.all_eq_true]
    exact ⟨decimalChars_ne_nil _, fun c member => isDigit_of_mem_decimalChars member⟩
  -- A negative number is read behind its sign, any other one from its first digit on.
  rw [signedChars]
  split
  · simp only [integer?, digits, if_true, foldl_decimalChars, Option.bind_some]
    rw [if_neg (by omega)]
    exact congrArg some (by omega)
  · rw [integer?]
    · simp only [digits, if_true, foldl_decimalChars, Option.map_some]
      exact congrArg some (Int.natAbs_of_nonneg (by omega))
    · exact decimalChars_ne_cons (by decide) _

/-- An integer of 64 bits reads back from its literal. -/
theorem int64?_signedChars (value : Int64) :
    (number (signedChars value.toInt)).int64? = some value := by
  -- The value lies within the bounds that are checked, so the check lets it pass.
  have low := value.le_toInt
  have high := value.toInt_lt
  have within : (integer? (signedChars value.toInt)).filter (fun value =>
      -0x8000000000000000 ≤ value && value < 0x8000000000000000) = some value.toInt := by
    rw [integer?_signedChars, Option.filter_some, if_pos]
    simp only [Bool.and_eq_true, decide_eq_true_eq]
    omega
  rw [int64?, integerIn?, within, Option.map_some, Int64.ofInt_toInt]

/-! ## Blank documents -/

/-- A run of blanks is no number. -/
theorem readNumber_of_blank {chars : List Char} (blank : ∀ c ∈ chars, isBlank c = true) :
    readNumber chars = none := by
  -- A number starts with a sign or a digit, and neither is a blank.
  cases chars with
  | nil => rfl
  | cons c rest =>
    have first : isBlank c = true := blank c List.mem_cons_self
    have noDigit : c.isDigit = false := by
      rw [Bool.eq_false_iff]
      intro digit
      rw [isBlank_of_isDigit digit] at first
      cases first
    have noSign : c ≠ '-' := by
      rintro rfl
      cases first
    have noZero : c ≠ '0' := by
      rintro rfl
      cases first
    simp [readNumber, readUnsigned, readWhole, takeDigits, noSign, noZero, noDigit]

/-- A blank document is not JSON. -/
theorem read?_of_blank {document : String} (blank : isBlankText document = true) :
    read? document = none := by
  -- Behind the gap there is nothing or another blank, with which no value starts.
  rw [isBlankText, List.all_eq_true] at blank
  have left : ∀ c ∈ skipGap document.toList, isBlank c = true :=
    fun c member => blank c ((List.dropWhile_sublist _).subset member)
  have nothing : readValue (2 * document.toList.length + 1) document.toList = none := by
    rw [readValue]
    generalize skipGap document.toList = chars at left ⊢
    split
    case h_7 => rw [readNumber_of_blank left, Option.map_none]
    all_goals exact absurd (left _ List.mem_cons_self) (by decide)
  rw [read?, nothing]
  rfl

/-! ## Objects -/

/-- Dropping a gap twice drops no more. -/
theorem skipGap_skipGap (chars : List Char) : skipGap (skipGap chars) = skipGap chars := by
  -- By induction on the characters: what is left begins with no gap.
  induction chars with
  | nil => rfl
  | cons c rest ih =>
    cases gap : isGap c with
    | true => simpa [skipGap, gap] using ih
    | false => simp [skipGap, gap]

/-- What is written as the value of a member reads back as a value, up to what ends the line. -/
def Reads (written : List Char) (json : Json) : Prop :=
  ∀ (fuel : Nat) {stop : Char} (_ : Stops stop) (rest : List Char),
    readValue (fuel + 1) (' ' :: written ++ stop :: rest) = some (json, stop :: rest)

/-- A quoted text reads back as that text. -/
theorem reads_quote (content : String) : Reads (quote content) (.text (some content)) := by
  -- The quote in front decides that a string is read, and its end is found whatever follows.
  intro fuel stop stops rest
  obtain ⟨quoted, read⟩ := readString_quote content (stop :: rest)
  rw [List.cons_append, quoted, readValue]
  simp [skipGap, isGap, read]

/-- An integer is written with a minus sign or a digit in front. -/
theorem signedChars_eq_cons (value : Int) : ∃ first rest, signedChars value = first :: rest ∧
    (first = '-' ∨ first.isDigit = true) := by
  -- A negative number has its sign in front, any other one its first digit.
  rw [signedChars]
  split
  · exact ⟨_, _, rfl, .inl rfl⟩
  · obtain ⟨first, rest, digits⟩ := List.exists_cons_of_ne_nil (decimalChars_ne_nil value.natAbs)
    exact ⟨first, rest, digits, .inr (isDigit_of_mem_decimalChars (digits ▸ List.mem_cons_self))⟩

/-- An integer in decimal reads back as its literal. -/
theorem reads_signedChars (value : Int) :
    Reads (signedChars value) (.number (signedChars value)) := by
  intro fuel stop stops rest
  obtain ⟨first, others, starts, numeric⟩ := signedChars_eq_cons value
  have read := readNumber_signedChars stops value rest
  -- What a number starts with is no gap and starts no other value.
  have apart : ∀ {c : Char}, c.isDigit = false → c ≠ '-' → first ≠ c := by
    rintro c noDigit noSign rfl
    rcases numeric with sign | digit
    · exact noSign sign
    · exact absurd digit (by simp [noDigit])
  -- The blank before the number is skipped, and the number itself is not.
  have skipped : skipGap (' ' :: signedChars value ++ stop :: rest) =
      first :: (others ++ stop :: rest) := by
    have noGap : isGap first = false := by
      simp [isGap, apart (c := ' ') rfl (by decide), apart (c := '\t') rfl (by decide),
        apart (c := '\n') rfl (by decide), apart (c := '\r') rfl (by decide)]
    simp [skipGap, starts, noGap, show isGap ' ' = true from rfl]
  rw [readValue, skipped]
  split
  case h_7 =>
    rw [starts, List.cons_append] at read
    rw [read, ← starts]
    rfl
  all_goals
    rename_i same
    exact absurd (List.cons.inj same).1 (apart rfl (by decide))

/-- A line reads back as a member, behind which the object ends or goes on with another line. -/
theorem readMembers_line {value : List Char} {result : Json} (reads : Reads value result)
    (name : String) (fuel : Nat) (stops : Stops stop) {rest after : List Char}
    {members : List (Option String × Json)}
    (behind : skipGap (stop :: rest) = '\x7d' :: after ∧ members = [] ∨
      ∃ later, skipGap (stop :: rest) = ',' :: later ∧
        readMembers (fuel + 1) later = some (members, after)) :
    readMembers (fuel + 2)
        ("\n  ".toList ++ quote name ++ ": ".toList ++ value ++ stop :: rest) =
      some ((some name, result) :: members, after) := by
  -- In front of the name and of the colon there are only gaps.
  obtain ⟨quoted, read⟩ := readString_quote name (": ".toList ++ value ++ stop :: rest)
  have line : skipGap ("\n  ".toList ++ quote name ++ ": ".toList ++ value ++ stop :: rest) =
      '"' :: (name.toList.flatMap escape ++ '"' :: (": ".toList ++ value ++ stop :: rest)) := by
    simp only [List.append_assoc] at quoted ⊢
    rw [quoted]
    rfl
  have colon : skipGap (": ".toList ++ value ++ stop :: rest) =
      ':' :: (' ' :: value ++ stop :: rest) := rfl
  rw [readMembers, line]
  simp only [read, Option.bind_eq_bind, Option.bind_some, colon, reads fuel stops rest]
  rcases behind with ⟨ends, rfl⟩ | ⟨later, goesOn, more⟩
  · simp only [ends]
  · simp only [goesOn, more, Option.bind_some]

variable {α : Type} {written : α → List Char} {json : α → Json}

/-- The lines of an object read back as its members. -/
theorem readMembers_memberLines {members : List (String × α)} {fuel : Nat} (filled : members ≠ [])
    (enough : members.length < fuel)
    (reads : ∀ member ∈ members, Reads (written member.2) (json member.2)) (after : List Char) :
    readMembers fuel (memberLines (members.map fun member => (member.1, written member.2)) ++
      '\x7d' :: after) =
      some (members.map fun member => (some member.1, json member.2), after) := by
  -- The last line ends the object, and any other one goes on with the lines behind it.
  induction members generalizing fuel with
  | nil => exact absurd rfl filled
  | cons member others ih =>
    obtain ⟨name, value⟩ := member
    obtain ⟨first, rest⟩ := List.forall_mem_cons.mp reads
    have atLeast : 2 ≤ fuel := by
      rw [List.length_cons] at enough
      omega
    obtain ⟨fuel, rfl⟩ := Nat.exists_eq_add_of_le' atLeast
    cases others with
    | nil =>
      have ends : skipGap ('\n' :: '\x7d' :: after) = '\x7d' :: after := rfl
      have line := readMembers_line first name fuel stops_newline (.inl ⟨ends, rfl⟩)
      simpa only [List.map_cons, List.map_nil, memberLines, List.append_assoc, List.cons_append,
        List.nil_append] using line
    | cons second others =>
      have later := ih (List.cons_ne_nil second others)
        (show (second :: others).length < fuel + 1 by simp at enough ⊢; omega) rest
      have line := readMembers_line first name fuel stops_comma (.inr ⟨_, rfl, later⟩)
      simpa only [List.map_cons, memberLines, List.append_assoc, List.cons_append] using line

/-- Each member has a line. -/
theorem length_le_memberLines (members : List (String × List Char)) :
    members.length ≤ (memberLines members).length := by
  -- Each member takes more than one character.
  fun_induction memberLines members with
  | case1 => simp
  | case2 => simp
  | case3 => simp; omega

/-- A brace in front of members that are read starts an object. -/
theorem readValue_object {fuel : Nat} {chars quoted after : List Char}
    {members : List (Option String × Json)} (starts : skipGap chars = '"' :: quoted)
    (read : readMembers fuel chars = some (members, after)) :
    readValue (fuel + 1) ('\x7b' :: chars) = some (.object members, after) := by
  -- The gap in front of the first member counts for nothing.
  have skipped : readMembers fuel (skipGap chars) = readMembers fuel chars := by
    cases fuel with
    | zero => rfl
    | succ fuel => rw [readMembers, readMembers, skipGap_skipGap]
  rw [readValue, skipGap, List.dropWhile_cons_of_neg (by decide)]
  simp only [starts] at skipped ⊢
  show (readMembers fuel ('"' :: quoted)).map _ = _
  rw [skipped, read]
  rfl

/-- An object that is printed reads back as that object. -/
theorem read?_printObject {members : List (String × α)}
    (reads : ∀ member ∈ members, Reads (written member.2) (json member.2)) :
    read? (printObject (members.map fun member => (member.1, written member.2))) =
      some (.object (members.map fun member => (some member.1, json member.2))) := by
  rw [read?, printObject, String.toList_ofList]
  cases members with
  | nil => rfl
  | cons member others =>
    obtain ⟨quoted, starts⟩ : ∃ quoted, skipGap (memberLines ((member :: others).map fun member =>
        (member.1, written member.2)) ++ ['\x7d']) = '"' :: quoted := by
      cases others <;> exact ⟨_, rfl⟩
    -- Each line has a character, so the steps do not run out.
    have enough : (member :: others).length < 2 * ('\x7b' :: memberLines
        ((member :: others).map fun member => (member.1, written member.2)) ++
          ['\x7d']).length := by
      have long := length_le_memberLines
        ((member :: others).map fun member => (member.1, written member.2))
      simp at long ⊢
      omega
    have read := readValue_object starts
      (readMembers_memberLines (List.cons_ne_nil member others) enough reads [])
    rw [List.cons_append] at read ⊢
    simp only [read, Option.bind_eq_bind, Option.bind_some]
    rfl

end DeviceBrowser.Text.Json

import DeviceBrowser.Text.Blank
import DeviceBrowser.Text.Numeral
import Mathlib.Algebra.Group.Nat.Defs

/-! Numbers written in decimal or hexadecimal read back as the numbers they came from. -/

namespace DeviceBrowser.Text

/-- A digit of the core library is read as its distance from zero. -/
theorem digit?_of_isDigit {c : Char} (digit : c.isDigit = true) :
    digit? c = some (c.toNat - '0'.toNat) := by
  -- Both ask whether the character lies between zero and nine.
  have between : '0' ≤ c ∧ c ≤ '9' := by
    simpa [Char.isDigit, Char.le_def] using digit
  rw [digit?, if_pos between]

/-- Digits are read like the core library reads them. -/
theorem readDigitsFrom_eq {chars : List Char} (digits : ∀ c ∈ chars, c.isDigit = true)
    (value : Nat) : readDigitsFrom value chars = some (Nat.ofDigitChars 10 chars value) := by
  -- By induction on the digits, with the value read so far as what both start from.
  induction chars generalizing value with
  | nil => rfl
  | cons c rest ih =>
    obtain ⟨first, others⟩ := List.forall_mem_cons.mp digits
    rw [readDigitsFrom, digit?_of_isDigit first, Nat.ofDigitChars_cons, Nat.mul_comm 10]
    exact ih others _

/-- A number is written with digits only. -/
theorem isDigit_of_mem_decimalChars {value : Nat} {c : Char} (member : c ∈ decimalChars value) :
    c.isDigit = true :=
  Nat.isDigit_of_mem_toDigits (by decide) (by decide) member

/-- A number is not written with anything but digits. -/
theorem not_mem_decimalChars {c : Char} (noDigit : c.isDigit = false) (value : Nat) :
    c ∉ decimalChars value := by
  -- Every character of a numeral is a digit.
  intro member
  rw [isDigit_of_mem_decimalChars member] at noDigit
  cases noDigit

/-- A number is written with at least one digit. -/
theorem decimalChars_ne_nil (value : Nat) : decimalChars value ≠ [] := Nat.toDigits_ne_nil

/-- A number is not written with anything but a digit in front. -/
theorem decimalChars_append_ne_cons {c : Char} (noDigit : c.isDigit = false) (value : Nat)
    (more rest : List Char) : decimalChars value ++ more ≠ c :: rest := by
  -- There is a first digit, and it would have to be that other character.
  obtain ⟨first, others, digits⟩ := List.exists_cons_of_ne_nil (decimalChars_ne_nil value)
  intro starts
  rw [digits, List.cons_append, List.cons_eq_cons] at starts
  have digit := isDigit_of_mem_decimalChars (digits ▸ List.mem_cons_self : first ∈ _)
  rw [starts.1, noDigit] at digit
  cases digit

/-- A number alone is not written with anything but a digit in front. -/
theorem decimalChars_ne_cons {c : Char} (noDigit : c.isDigit = false) (value : Nat)
    (rest : List Char) : decimalChars value ≠ c :: rest := by
  -- With nothing behind it the numeral is the whole text.
  simpa using decimalChars_append_ne_cons noDigit value [] rest

/-- The decimal digits of a number read back as the number. -/
@[simp] theorem readDigits_decimalChars (value : Nat) :
    readDigits (decimalChars value) = some value := by
  -- The core library reads the numeral back, and there is a digit to be read.
  have read : readDigitsFrom 0 (decimalChars value) = some value := by
    rw [readDigitsFrom_eq fun c member => isDigit_of_mem_decimalChars member]
    exact congrArg some Nat.ofDigitChars_ten_toDigits
  rw [readDigits.eq_def]
  split
  · rename_i none
    exact absurd none (decimalChars_ne_nil value)
  · exact read

/-- A number below a limit reads back from its decimal form. -/
theorem readNat_decimal {limit value : Nat} (isBelow : value < limit) :
    readNat limit (decimal value) = some value := by
  have read : (readDigits (decimalChars value) >>= below limit) = some value := by
    simp [below, isBelow]
  rw [readNat, decimal, String.toList_ofList]
  split
  · -- No number is written with a plus sign.
    rename_i digits signed
    exact absurd signed (decimalChars_ne_cons (by decide) value digits)
  · exact read

/-- No digit is a blank. -/
theorem isBlank_of_isDigit {c : Char} (digit : c.isDigit = true) : isBlank c = false := by
  -- The digits lie between the blanks of the ASCII range and those beyond it.
  have between : 0x30 ≤ c.toNat ∧ c.toNat ≤ 0x39 := by
    simp only [Char.isDigit, Bool.and_eq_true, decide_eq_true_eq, ge_iff_le,
      UInt32.le_iff_toNat_le] at digit
    exact digit
  simp only [isBlank, Bool.or_eq_false_iff, Bool.and_eq_false_iff, decide_eq_false_iff_not,
    beq_eq_false_iff_ne]
  omega

/-- Without blanks there is nothing to trim. -/
theorem trimChars_eq {chars : List Char} (full : ∀ c ∈ chars, isBlank c = false) :
    trimChars chars = chars := by
  -- Blanks are dropped in front of the text and of its reverse, and there are none in either.
  have kept : ∀ {text : List Char}, (∀ c ∈ text, isBlank c = false) →
      text.dropWhile isBlank = text := by
    intro text filled
    cases text with
    | nil => rfl
    | cons c rest => rw [List.dropWhile_cons_of_neg (by simp [filled c])]
  rw [trimChars, kept full, kept (by simpa using full), List.reverse_reverse]

/-- A number is written without blanks. -/
@[simp] theorem trim_decimal (value : Nat) : trim (decimal value) = decimal value := by
  -- Digits are no blanks, so that nothing is taken off at either end.
  have full : ∀ c ∈ decimalChars value, isBlank c = false :=
    fun c member => isBlank_of_isDigit (isDigit_of_mem_decimalChars member)
  rw [trim, decimal, String.toList_ofList, trimChars_eq full]

/-- A value below sixteen reads back from its hexadecimal digit. -/
theorem hexDigit?_hexDigit : ∀ value < 16, hexDigit? (hexDigit value) = some value := by
  -- Sixteen digits are looked at.
  decide

/-- Hexadecimal digits are read one run after the other. -/
theorem readHexFrom_append (front back : List Char) (value : Nat) :
    readHexFrom value (front ++ back) = (readHexFrom value front).bind (readHexFrom · back) := by
  -- By induction on the front, with the value read so far handed on; a character that is no digit
  -- ends both.
  induction front generalizing value with
  | nil => rfl
  | cons c rest ih =>
    cases digit : hexDigit? c with
    | none => simp [readHexFrom, digit]
    | some size => simpa [readHexFrom, digit] using ih (value * 16 + size)

/-- The lowest hexadecimal digits of a number read back as what they hold of it, behind what was
read before. -/
theorem readHexFrom_hexChars (width value start : Nat) :
    readHexFrom start (hexChars width value) = some (start * 16 ^ width + value % 16 ^ width) := by
  -- The last digit is the remainder by sixteen, and the digits before it are those of the quotient.
  induction width generalizing value with
  | zero => simp [hexChars, readHexFrom, Nat.mod_one]
  | succ width ih =>
    have last := hexDigit?_hexDigit (value % 16) (Nat.mod_lt _ (by decide))
    have place : value % 16 ^ (width + 1) = value % 16 + 16 * (value / 16 % 16 ^ width) := by
      rw [Nat.pow_succ, Nat.mul_comm, Nat.mod_mul]
    rw [hexChars, readHexFrom_append, ih, place, Nat.pow_succ]
    simp only [Option.bind_some, readHexFrom, last, Option.bind_eq_bind, Option.some.injEq]
    rw [Nat.add_mul, Nat.mul_assoc]
    omega

end DeviceBrowser.Text

import Mathlib
import DeviceBrowser.Text.Case

/-! Texts that differ in the case of ASCII letters only: the mappings of case, and with them all
that ignores case, do not tell them apart, whatever other characters they hold. -/

namespace DeviceBrowser.Text

/-- Upper-case letters of ASCII and their lower case are ASCII. -/
theorem ascii_of_isUpper {c : Char} (upper : c.isUpper = true) :
    c.toNat < 0x80 ∧ c.toLower.toNat < 0x80 := by
  -- The lower case of a letter stands 32 places behind it.
  have within : 65 ≤ c.toNat ∧ c.toNat ≤ 90 := by
    simpa [Char.isUpper, UInt32.le_iff_toNat_le, ← Char.toNat_val] using upper
  have valid : (c.toNat + 32).isValidChar := by
    left
    omega
  rw [Char.toLower_eq_of_isUpper upper, Char.toNat_ofNat, if_pos valid]
  omega

/-- The lower case of an ASCII letter has the upper case that the letter has. -/
@[simp] theorem upperChar_toLower (c : Char) : upperChar c.toLower = upperChar c := by
  -- Only the lower case of an upper-case letter is another character.
  by_cases upper : c.isUpper = true
  · obtain ⟨ascii, lowerAscii⟩ := ascii_of_isUpper upper
    rw [upperChar, upperChar, if_pos ascii, if_pos lowerAscii, Char.toUpper_toLower_eq_toUpper]
  · rw [Char.toLower_eq_of_not_isUpper (by simpa using upper)]

/-- The lower case of an ASCII letter has the lower case that the letter has. -/
@[simp] theorem lowerChar_toLower (c : Char) : lowerChar c.toLower = lowerChar c := by
  -- Upper-case letters are lowered to ASCII letters, which have themselves as lower case; all
  -- others stay.
  by_cases upper : c.isUpper = true
  · obtain ⟨ascii, lowerAscii⟩ := ascii_of_isUpper upper
    rw [lowerChar, lowerChar, if_pos ascii, if_pos lowerAscii, Char.toLower_toLower_eq_toLower]
  · rw [Char.toLower_eq_of_not_isUpper (by simpa using upper)]

/-- Two texts have the same letters when they differ at most in the case of ASCII letters. -/
def SameLetters (left right : String) : Prop :=
  left.toList.map Char.toLower = right.toList.map Char.toLower

instance (left right : String) : Decidable (SameLetters left right) :=
  inferInstanceAs (Decidable (_ = _))

/-- What is made of each character in turn is the same for texts with the same letters, if it is the
same for a letter and its lower case. -/
theorem SameLetters.flatMap_eq {left right : String} (same : SameLetters left right)
    {map : Char → List Char} (blind : ∀ c : Char, map c.toLower = map c) :
    left.toList.flatMap map = right.toList.flatMap map := by
  -- Putting a text in lower case first makes no difference.
  have lowered : ∀ chars : List Char, chars.flatMap map = (chars.map Char.toLower).flatMap map := by
    intro chars
    simp only [List.flatMap_map, blind]
  rw [lowered left.toList, lowered right.toList, same]

/-- Texts with the same letters have the same upper case. -/
theorem SameLetters.upperChars_eq {left right : String} (same : SameLetters left right) :
    upperChars left.toList = upperChars right.toList :=
  -- Characters that are letters of one kind have one upper case.
  same.flatMap_eq upperChar_toLower

/-- Texts with the same letters have the same lower case. -/
theorem SameLetters.lowerChars_eq {left right : String} (same : SameLetters left right) :
    lowerChars left.toList = lowerChars right.toList :=
  -- Characters that are letters of one kind have one lower case.
  same.flatMap_eq lowerChar_toLower

end DeviceBrowser.Text

import DeviceBrowser.Text.Case

/-! The lower case of a text, taken apart: each part is put in lower case in its place, and only the
form of a sigma depends on what stands around it. Looking for a text without regard to case is
looking for a part of the lower case. -/

namespace DeviceBrowser.Text

/-- Whether a sigma ends a word: a cased letter stands before it, and none behind. `before` holds
the characters before it, nearest first. -/
def endsWord (before after : List Char) : Bool :=
  meetsCased before && !meetsCased after

/-- The lower case of one character in its place. -/
def lowerAt (before : List Char) (c : Char) (after : List Char) : List Char :=
  if c = '\u03a3' then [if endsWord before after then '\u03c2' else '\u03c3'] else lowerChar c

/-- The lower case of a part of a text in its place. -/
def lowerPart (before : List Char) : List Char → List Char → List Char
  | [], _ => []
  | c :: rest, after => lowerAt before c (rest ++ after) ++ lowerPart (c :: before) rest after

/-- The lower case of a text is that of its first part and that of what follows, each in its
place. -/
theorem lowerWithin_append (before part after : List Char) :
    lowerWithin before (part ++ after) =
      lowerPart before part after ++ lowerWithin (part.reverse ++ before) after := by
  -- The characters that are done with stand before the others, nearest first.
  induction part generalizing before with
  | nil => rfl
  | cons c rest ih =>
    have head : lowerWithin before (c :: (rest ++ after)) =
        lowerAt before c (rest ++ after) ++ lowerWithin (c :: before) (rest ++ after) := rfl
    rw [List.cons_append, head, ih, lowerPart, List.append_assoc, List.reverse_cons,
      List.append_assoc, List.singleton_append]

/-- A text with nothing behind it is put in lower case like its last part. -/
theorem lowerPart_nil (before part : List Char) :
    lowerPart before part [] = lowerWithin before part := by
  -- Nothing behind a part is as good as the end of the text.
  simpa [lowerWithin] using (lowerWithin_append before part []).symm

/-- In all places a character has as many characters in lower case. -/
theorem length_lowerAt (before other : List Char) (c : Char) (after further : List Char) :
    (lowerAt before c after).length = (lowerAt other c further).length := by
  -- What depends on the place is only which of the two small sigmas is written, and both are one
  -- character.
  rw [lowerAt, lowerAt]
  split <;> rfl

/-- A character has the same lower case in two places, unless it is a sigma that ends a word in one
of them only. -/
theorem lowerAt_eq_iff {before other : List Char} {c : Char} {after further : List Char} :
    lowerAt before c after = lowerAt other c further ↔
      (c = '\u03a3' → endsWord before after = endsWord other further) := by
  rw [lowerAt, lowerAt]
  by_cases sigma : c = '\u03a3'
  · -- The two forms of the sigma tell the two places apart.
    cases endsWord before after <;> cases endsWord other further <;> simp [sigma]
  · simp [sigma]

/-- A part has the same lower case in two places exactly if each of its sigmas ends a word in both
or in none. -/
theorem lowerPart_eq_iff {part before other after further : List Char} :
    lowerPart before part after = lowerPart other part further ↔
      ∀ left right, part = left ++ '\u03a3' :: right →
        endsWord (left.reverse ++ before) (right ++ after) =
          endsWord (left.reverse ++ other) (right ++ further) := by
  induction part generalizing before other with
  | nil => simp [lowerPart]
  | cons c rest ih =>
    -- The first characters and the rests are compared apart, as they are equally long.
    have apart : lowerPart before (c :: rest) after = lowerPart other (c :: rest) further ↔
        lowerAt before c (rest ++ after) = lowerAt other c (rest ++ further) ∧
          lowerPart (c :: before) rest after = lowerPart (c :: other) rest further :=
      ⟨fun same => List.append_inj same (length_lowerAt _ _ _ _ _),
        fun ⟨head, tail⟩ => by rw [lowerPart, lowerPart, head, tail]⟩
    rw [apart, lowerAt_eq_iff, ih]
    constructor
    · -- A sigma is the first character, or stands among the rest.
      rintro ⟨first, others⟩ left right split
      cases left with
      | nil =>
        cases split
        exact first rfl
      | cons d left =>
        cases split
        simpa using others left right rfl
    · intro each
      constructor
      · rintro rfl
        exact each [] rest rfl
      · rintro left right rfl
        simpa using each (c :: left) right rfl

/-- A part of a text keeps its sigmas when each of them ends a word in the text exactly if it ends
one in the part alone. -/
def KeepsSigmas (before part after : List Char) : Prop :=
  ∀ left right, part = left ++ '\u03a3' :: right →
    endsWord (before ++ left).reverse (right ++ after) = endsWord left.reverse right

/-- A part keeps its sigmas exactly if it has the lower case in the text that it has alone. -/
theorem keepsSigmas_iff {before part after : List Char} :
    KeepsSigmas before part after ↔
      lowerPart before.reverse part after = lowerWithin [] part := by
  -- Characters other than the sigma have the same lower case everywhere, so only sigmas can differ.
  rw [← lowerPart_nil, lowerPart_eq_iff]
  simp [KeepsSigmas]

/-- A part without a capital sigma has none to keep. -/
theorem keepsSigmas_of_not_mem {part : List Char} (free : '\u03a3' ∉ part)
    (before after : List Char) : KeepsSigmas before part after := by
  -- There is no sigma at which the part could be taken apart.
  rintro left right rfl
  simp at free

/-- The lower case of a part that keeps its sigmas is a part of the lower case of the text. -/
theorem KeepsSigmas.infix_lower {text part : String} {before after : List Char}
    (keeps : KeepsSigmas before part.toList after)
    (located : text.toList = before ++ part.toList ++ after) :
    (lower part).toList <:+: (lower text).toList := by
  -- The text is taken apart in three, and the middle is in lower case as it is alone.
  have whole : lowerWithin [] text.toList =
      lowerPart [] before (part.toList ++ after) ++ lowerWithin [] part.toList ++
        lowerWithin (part.toList.reverse ++ before.reverse) after := by
    rw [located, List.append_assoc, lowerWithin_append, List.append_nil, lowerWithin_append,
      keepsSigmas_iff.mp keeps, List.append_assoc]
  rw [lower, lower, String.toList_ofList, String.toList_ofList, whole]
  exact ⟨_, _, rfl⟩

/-- A text of ASCII has the lower case of its letters. -/
theorem lowerWithin_of_ascii {chars : List Char} (ascii : ∀ c ∈ chars, c.toNat < 0x80)
    (before : List Char) : lowerWithin before chars = chars.map Char.toLower := by
  induction chars generalizing before with
  | nil => rfl
  | cons c rest ih =>
    obtain ⟨first, others⟩ := List.forall_mem_cons.mp ascii
    have notSigma : c ≠ '\u03a3' := by
      rintro rfl
      exact absurd first (by decide)
    -- What stands around a character matters to sigmas only, and there is none in ASCII.
    rw [lowerWithin, if_neg notSigma, lowerChar, if_pos first, ih others, List.map_cons,
      List.singleton_append]

/-- Looking for characters finds them exactly where they stand without gaps. -/
theorem occursIn_iff {needle chars : List Char} :
    occursIn needle chars = true ↔ needle <:+: chars := by
  -- By induction on the characters: a match starts in front or further on.
  induction chars with
  | nil => simp [occursIn]
  | cons c rest ih =>
    rw [occursIn, Bool.or_eq_true, List.isPrefixOf_iff_prefix, ih, List.infix_cons_iff]

/-- A text contains what is looked for, case ignored, exactly if its lower case does: the shorter
way for two texts of ASCII finds the same. -/
theorem containsIgnoringCase_iff {text needle : String} :
    containsIgnoringCase text needle = true ↔ needle.toList <:+: (lower text).toList := by
  rw [containsIgnoringCase]
  split
  · -- Nothing stands everywhere.
    rename_i empty
    simp [String.isEmpty_iff.mp empty]
  · split
    · -- The shorter way looks in the text with its capital letters made small.
      rename_i ascii
      have chars : ∀ c ∈ text.toList, c.toNat < 0x80 := by
        simpa [isAsciiText] using (Bool.and_eq_true_iff.mp ascii).1
      rw [occursIn_iff, lower, String.toList_ofList, lowerWithin_of_ascii chars]
    · exact occursIn_iff

end DeviceBrowser.Text

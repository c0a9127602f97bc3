import DeviceBrowser.Proofs.Text.Lines
import DeviceBrowser.Proofs.Text.Numeral

/-! Numbers with thousands separators: without the commas they are the decimal digits, and between
the commas stand three digits each, in front of the first one to three. -/

namespace DeviceBrowser.Text

/-- Groups of one to three characters first, and then of three each. -/
def InThrees (groups : List (List Char)) : Prop :=
  ∃ first others, groups = first :: others ∧ 1 ≤ first.length ∧ first.length ≤ 3 ∧
    ∀ group ∈ others, group.length = 3

/-- A number with thousands separators. Without its commas it is the number in decimal; between them
are digits alone, one to three in the first group and three in each further one. So it does not
start with a comma, and no other number is written like it. -/
structure SeparatesThousands (value : Nat) : Prop where
  digits : String.ofList ((grouped value).toList.filter (· ≠ ',')) = decimal value
  groups : InThrees (splitChars ',' (grouped value).toList)
  isDigit : ∀ group ∈ splitChars ',' (grouped value).toList, ∀ c ∈ group, c.isDigit = true
  head : (grouped value).toList.head? ≠ some ','
  determines : ∀ other, grouped other = grouped value → other = value

/-! ## Groups of three -/

/-- One group alone may have one to three characters. -/
theorem inThrees_singleton {group : List Char} (filled : group ≠ []) (short : group.length ≤ 3) :
    InThrees [group] :=
  -- There are no further groups to have three characters.
  ⟨group, [], rfl, List.length_pos_iff.mpr filled, short, by simp⟩

/-- Another three characters may follow. -/
theorem InThrees.concat {groups : List (List Char)} (inThrees : InThrees groups) {group : List Char}
    (three : group.length = 3) : InThrees (groups ++ [group]) := by
  -- The first group stays the first one, and the new one joins the others.
  obtain ⟨first, others, rfl, least, most, threes⟩ := inThrees
  refine ⟨first, others ++ [group], rfl, least, most, ?_⟩
  intro other member
  rcases List.mem_append.mp member with earlier | last
  · exact threes other earlier
  · rw [List.mem_singleton.mp last, three]

/-! ## Commas between the characters of a reversed numeral -/

@[simp] theorem withCommas_nil : withCommas [] = [] := rfl

/-- The first character has a comma in front of it where its place is to have one. -/
theorem withCommas_cons (c : Char) (place : Nat) (rest : List (Char × Nat)) :
    withCommas ((c, place) :: rest) =
      (if 0 < place ∧ place % 3 = 0 then [',', c] else [c]) ++ withCommas rest :=
  -- Commas are placed character by character.
  rfl

/-- Commas are written one part of the characters after the other. -/
theorem withCommas_append (front back : List (Char × Nat)) :
    withCommas (front ++ back) = withCommas front ++ withCommas back :=
  -- Each character has its place with it, so that the parts do not depend on each other.
  List.flatMap_append

/-- Three characters at most are written without commas. -/
theorem withCommas_short {chars : List Char} (short : chars.length ≤ 3) :
    withCommas chars.zipIdx = chars := by
  -- The places of the characters from one on stay below three.
  have near : ∀ (rest : List Char) (place : Nat), place + rest.length ≤ 3 →
      withCommas (rest.zipIdx place) = rest := by
    intro rest
    induction rest with
    | nil => simp
    | cons c rest ih =>
      intro place short
      rw [List.length_cons] at short
      rw [List.zipIdx_cons, withCommas_cons, if_neg (by omega), ih (place + 1) (by omega)]
      rfl
  exact near chars 0 (by omega)

/-- Behind the first place, the commas are the same three places further on. -/
theorem withCommas_further (chars : List Char) {place : Nat} (later : 0 < place) :
    withCommas (chars.zipIdx (place + 3)) = withCommas (chars.zipIdx place) := by
  -- By induction on the characters: three places further on, all places leave the same remainder.
  induction chars generalizing place with
  | nil => rfl
  | cons c rest ih =>
    have same : 0 < place + 3 ∧ (place + 3) % 3 = 0 ↔ 0 < place ∧ place % 3 = 0 := by omega
    rw [List.zipIdx_cons, List.zipIdx_cons, withCommas_cons, withCommas_cons, Nat.add_right_comm,
      ih (Nat.succ_pos place)]
    simp only [same]

/-- Behind three characters comes a comma, and then the others are written as if they were the
first. -/
theorem withCommas_behind {low high : List Char} (three : low.length = 3) (filled : high ≠ []) :
    withCommas (low ++ high).zipIdx = low ++ ',' :: withCommas high.zipIdx := by
  obtain ⟨c, rest, rfl⟩ := List.exists_cons_of_ne_nil filled
  rw [List.zipIdx_append, withCommas_append, withCommas_short (Nat.le_of_eq three), three]
  -- The first character of the others has a comma at place three, and has none at the first place.
  rw [List.zipIdx_cons, List.zipIdx_cons, withCommas_cons, withCommas_cons, if_pos (by decide),
    if_neg (by decide), Nat.zero_add, Nat.add_comm, withCommas_further rest Nat.one_pos]
  rfl

/-- Without its commas a text is the characters that were written. -/
theorem filter_withCommas {chars : List Char} (free : ',' ∉ chars) (place : Nat) :
    (withCommas (chars.zipIdx place)).filter (· ≠ ',') = chars := by
  -- By induction on the characters: a comma in front is taken out again, and the character stays.
  induction chars generalizing place with
  | nil => rfl
  | cons c rest ih =>
    rw [List.mem_cons, not_or] at free
    rw [List.zipIdx_cons, withCommas_cons, List.filter_append, ih free.2]
    split <;> simp [Ne.symm free.1]

/-- Read from the last character to the first, the commas leave groups of three. -/
theorem inThrees_withCommas {chars : List Char} (filled : chars ≠ []) (free : ',' ∉ chars) :
    InThrees (splitChars ',' (withCommas chars.zipIdx).reverse) := by
  -- The first three characters are read last, and those behind them make the groups before.
  induction counted : chars.length using Nat.strongRecOn generalizing chars with
  | ind length ih =>
    by_cases short : chars.length ≤ 3
    · rw [withCommas_short short, splitChars_eq_singleton (by simpa using free)]
      exact inThrees_singleton (by simpa using filled) (by simpa using short)
    · have three : (chars.take 3).length = 3 := by rw [List.length_take]; omega
      have fewer : (chars.drop 3).length < length := by rw [List.length_drop]; omega
      have more : chars.drop 3 ≠ [] := by simpa using short
      have lowFree : ',' ∉ (chars.take 3).reverse := by
        simpa using fun member => free (List.mem_of_mem_take member)
      have highFree : ',' ∉ chars.drop 3 := fun member => free (List.mem_of_mem_drop member)
      have parted : (withCommas chars.zipIdx).reverse =
          (withCommas (chars.drop 3).zipIdx).reverse ++ ',' :: (chars.take 3).reverse := by
        conv => lhs; rw [← List.take_append_drop 3 chars, withCommas_behind three more]
        simp
      rw [parted, splitChars_append_cons, splitChars_eq_singleton lowFree]
      exact (ih _ fewer more highFree rfl).concat (by rw [List.length_reverse, three])

/-! ## Numbers in groups -/

/-- A number that is written without looking for commas has so few digits that there are none. -/
theorem groupedChars_eq (value : Nat) :
    groupedChars value = (withCommas (decimalChars value).reverse.zipIdx).reverse := by
  rw [groupedChars]
  split
  · -- Below a thousand there are at most three digits, none of which has a comma in front.
    rename_i small
    have short : (decimalChars value).length ≤ 3 :=
      (Nat.length_toDigits_le_iff (by decide) (by decide)).mpr small
    rw [withCommas_short (by rwa [List.length_reverse]), List.reverse_reverse]
  · rfl

/-- Without its commas a number is its digits. -/
theorem filter_groupedChars (value : Nat) :
    (groupedChars value).filter (· ≠ ',') = decimalChars value := by
  -- Digits are no commas, in whatever order they stand.
  have free : ',' ∉ (decimalChars value).reverse := by
    rw [List.mem_reverse]
    exact not_mem_decimalChars (by decide) value
  rw [groupedChars_eq, List.filter_reverse, filter_withCommas free, List.reverse_reverse]

/-- The commas leave groups of three digits. -/
theorem inThrees_groupedChars (value : Nat) : InThrees (splitChars ',' (groupedChars value)) := by
  -- Groups are counted from the end of the number, which is why its digits are turned round.
  have filled : (decimalChars value).reverse ≠ [] := by
    simpa using decimalChars_ne_nil value
  have free : ',' ∉ (decimalChars value).reverse := by
    rw [List.mem_reverse]
    exact not_mem_decimalChars (by decide) value
  rw [groupedChars_eq]
  exact inThrees_withCommas filled free

/-- Every number is written in groups of three digits. -/
theorem separatesThousands (value : Nat) : SeparatesThousands value where
  digits := by
    rw [grouped, String.toList_ofList, filter_groupedChars, decimal]
  groups := by
    rw [grouped, String.toList_ofList]
    exact inThrees_groupedChars value
  isDigit := by
    intro group member c within
    rw [grouped, String.toList_ofList] at member
    -- A character of a group is none of the commas, and so it stays when they are left out.
    obtain ⟨free, subset⟩ := of_mem_splitChars member
    have apart : c ≠ ',' := by
      rintro rfl
      exact free within
    have kept : c ∈ (groupedChars value).filter (· ≠ ',') :=
      List.mem_filter.mpr ⟨subset within, by simpa using apart⟩
    rw [filter_groupedChars] at kept
    exact isDigit_of_mem_decimalChars kept
  head := by
    rw [grouped, String.toList_ofList]
    intro comma
    -- A comma in front would leave a first group without digits.
    obtain ⟨rest, starts⟩ := List.head?_eq_some_iff.mp comma
    obtain ⟨first, others, pieces, least, -⟩ := inThrees_groupedChars value
    rw [starts, ← List.nil_append (',' :: rest), splitChars_append List.not_mem_nil] at pieces
    rw [← (List.cons.inj pieces).1] at least
    exact absurd least (by decide)
  determines := by
    intro other same
    have digits : decimalChars other = decimalChars value := by
      rw [← filter_groupedChars, ← filter_groupedChars value, String.ofList_inj.mp same]
    have read : readDigits (decimalChars other) = some value := by
      rw [digits, readDigits_decimalChars]
    simpa using read

/-- Seven digits in groups. -/
example : grouped 1234567 = "1,234,567" := by decide

end DeviceBrowser.Text

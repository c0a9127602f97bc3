import DeviceBrowser.FileTime
import Mathlib.Algebra.Group.Int.Defs

/-! File times and instants: a file time has an instant exactly if its distance from 1970 fits into
64 bits, that instant leads back to it, and a later file time has a later instant. -/

namespace DeviceBrowser

/-- The year of a day lies in the four centuries that the day falls into, or right after them. -/
theorem CalendarDay.year_ofDays (days : Int) :
    (days + 719468) / 146097 * 400 ≤ (ofDays days).year ∧
      (ofDays days).year ≤ (days + 719468) / 146097 * 400 + 401 := by
  -- Within the four centuries the years are counted from the day's distance to their first day.
  have early : 0 ≤ (days + 719468) % 146097 := Int.emod_nonneg _ (by decide)
  have late : (days + 719468) % 146097 < 146097 := Int.emod_lt_of_pos _ (by decide)
  simp only [ofDays]
  generalize (days + 719468) % 146097 = dayOfEra at early late
  constructor
  · split <;> omega
  · split <;> omega

namespace Instant

/-- An instant is before another by its seconds, and within one second by its nanoseconds. -/
instance : LT Instant where
  lt left right :=
    left.seconds < right.seconds ∨ left.seconds = right.seconds ∧ left.nanos < right.nanos

/-- What is asked of a calendar: of every second that ticks of 64 bits can count from 1970, and
every part of it, it makes the instant with just these two. -/
structure MadeBy (of? : Int → Nat → Option Instant) : Prop where
  of?_eq : ∀ seconds nanos, -922337203686 ≤ seconds → seconds ≤ 922337203685 →
    nanos < 1000000000 → of? seconds nanos = some ⟨seconds, nanos⟩

/-- The calendar of instants does, as thirty thousand years around 1970 lie within it. -/
theorem madeBy_of? : MadeBy of? where
  of?_eq seconds nanos early late part := by
    -- The year of a second is known up to the four centuries that it falls into.
    have year := CalendarDay.year_ofDays (seconds / daySeconds)
    have inRange : -262143 ≤ (CalendarDay.ofDays (seconds / daySeconds)).year ∧
        (CalendarDay.ofDays (seconds / daySeconds)).year ≤ 262142 := by
      simp only [daySeconds] at year ⊢
      omega
    rw [of?]
    exact if_pos ⟨by omega, .inl part, inRange⟩

end Instant

namespace FileTime

/-- A file time and its instant in a calendar lead to one another. There is an instant exactly if
the distance from 1970 does not fall below the numbers of 64 bits. Its part of a second stays below
a second, the count that is wrapped to 64 bits at each step gives the file time again, and every
later file time has an instant too, a later one. -/
structure RoundTrips (of? : Int → Nat → Option Instant) (time : FileTime) : Prop where
  isSome_iff : (time.instantWith? of?).isSome = true ↔ -2 ^ 63 ≤ time.ticks.toInt - unixEpoch
  part : ∀ instant, time.instantWith? of? = some instant → instant.nanos < 1000000000
  back : ∀ instant, time.instantWith? of? = some instant → ofInstant instant = time
  ordered : ∀ instant, time.instantWith? of? = some instant →
    ∀ later : FileTime, time.ticks < later.ticks →
      ∃ laterInstant, later.instantWith? of? = some laterInstant ∧ instant < laterInstant

/-- The ticks from the start of 1970 to a file time. -/
def distance (time : FileTime) : Int := time.ticks.toInt - unixEpoch

/-- The instant at a distance from 1970: its full seconds, rounded down, and the ticks left over. -/
def instantAt (distance : Int) : Instant :=
  ⟨distance / ticksPerSecond, (distance % ticksPerSecond).toNat * 100⟩

/-- The ticks left over are less than a second. -/
theorem nanos_instantAt_lt (distance : Int) : (instantAt distance).nanos < 1000000000 := by
  -- A remainder of the ticks of a second, each of a hundred nanoseconds.
  simp only [instantAt, ticksPerSecond]
  omega

/-- The seconds and the ticks left over add up to the distance. -/
theorem ticks_instantAt (distance : Int) :
    (instantAt distance).seconds * ticksPerSecond + (instantAt distance).nanos / 100 =
      distance := by
  -- Quotient and remainder make up the number, below zero as well.
  simp only [instantAt, ticksPerSecond]
  omega

/-- At a longer distance is a later instant. -/
theorem instantAt_lt {near far : Int} (less : near < far) : instantAt near < instantAt far := by
  -- The seconds do not decrease, and where they stay the same, what is left over grows.
  change _ ∨ _
  simp only [instantAt, ticksPerSecond]
  omega

section Calendar

variable {of? : Int → Nat → Option Instant} (made : Instant.MadeBy of?)

include made in
/-- A file time has the instant at its distance from 1970 if that fits into 64 bits, and else
none. -/
theorem instantWith?_eq (time : FileTime) :
    time.instantWith? of? =
      if -2 ^ 63 ≤ time.distance then some (instantAt time.distance) else none := by
  -- What fits is among the seconds of which the calendar makes instants.
  have most := time.ticks.toInt_lt
  by_cases reached : -2 ^ 63 ≤ time.distance
  · have early : -922337203686 ≤ (instantAt time.distance).seconds := by
      simp only [instantAt, ticksPerSecond]
      omega
    have late : (instantAt time.distance).seconds ≤ 922337203685 := by
      simp only [instantAt, distance, unixEpoch, ticksPerSecond]
      omega
    rw [if_pos reached, instantWith?, ← distance, if_neg (by omega)]
    exact made.of?_eq _ _ early late (nanos_instantAt_lt _)
  · rw [if_neg reached, instantWith?, ← distance, if_pos (by omega)]

include made in
/-- A file time that has an instant has that of its distance. -/
theorem instantWith?_eq_some_iff {time : FileTime} {instant : Instant} :
    time.instantWith? of? = some instant ↔
      -2 ^ 63 ≤ time.distance ∧ instantAt time.distance = instant := by
  -- An underflow is the only way to have none.
  rw [instantWith?_eq made, Option.ite_none_right_eq_some, Option.some.injEq]

end Calendar

/-- The count back from the instant at a file time's distance ends at the file time, even where the
seconds alone count more ticks than 64 bits hold. -/
theorem ofInstant_instantAt (time : FileTime) : ofInstant (instantAt time.distance) = time := by
  -- Wrapping at each step comes to the same as wrapping the whole, and the whole fits.
  have whole : (instantAt time.distance).seconds * ticksPerSecond +
      (instantAt time.distance).nanos / 100 + unixEpoch = time.ticks.toInt := by
    rw [ticks_instantAt, distance, Int.sub_add_cancel]
  rw [ofInstant, ← Int64.ofInt_mul, ← Int64.ofInt_add, ← Int64.ofInt_add, whole, Int64.ofInt_toInt]

/-- With whatever calendar that makes instants of all seconds and parts of them, every file time and
its instant lead to one another. -/
theorem roundTrips_of_madeBy {of? : Int → Nat → Option Instant} (made : Instant.MadeBy of?)
    (time : FileTime) : time.RoundTrips of? where
  isSome_iff := by
    rw [Option.isSome_iff_exists]
    constructor
    · rintro ⟨instant, found⟩
      exact ((instantWith?_eq_some_iff made).mp found).1
    · intro reached
      exact ⟨_, (instantWith?_eq_some_iff made).mpr ⟨reached, rfl⟩⟩
  part := by
    intro instant found
    obtain ⟨-, rfl⟩ := (instantWith?_eq_some_iff made).mp found
    exact nanos_instantAt_lt _
  back := by
    intro instant found
    obtain ⟨-, rfl⟩ := (instantWith?_eq_some_iff made).mp found
    exact ofInstant_instantAt time
  ordered := by
    -- A later file time is farther from the least one, and so its distance fits as well.
    intro instant found later less
    obtain ⟨reached, rfl⟩ := (instantWith?_eq_some_iff made).mp found
    have farther : time.distance < later.distance :=
      Int.sub_lt_sub_right (Int64.lt_iff_toInt_lt.mp less) unixEpoch
    have fits := Int.le_trans reached (Int.le_of_lt farther)
    exact ⟨_, (instantWith?_eq_some_iff made).mpr ⟨fits, rfl⟩, instantAt_lt farther⟩

/-- Every file time and its instant lead to one another. -/
theorem roundTrips (time : FileTime) : time.RoundTrips Instant.of? :=
  -- The calendar that is at hand makes its instants as is asked of one.
  roundTrips_of_madeBy Instant.madeBy_of? time

/-- The seconds of the first file time that has an instant count more ticks than 64 bits hold. -/
example : (FileTime.mk (-9106927300854775808)).instant? = some ⟨-922337203686, 522419200⟩ ∧
    (-922337203686) * ticksPerSecond < -2 ^ 63 := by
  decide

end FileTime

end DeviceBrowser

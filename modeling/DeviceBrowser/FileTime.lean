import DeviceBrowser.Text.Numeral

/-! File times: ticks of 100 nanoseconds since the year 1601, as instants and as calendar text in a
time zone. -/

namespace DeviceBrowser

open Text

/-- A count of 100-nanosecond ticks since the start of 1601. -/
structure FileTime where
  ticks : Int64
deriving DecidableEq, Inhabited

/-- A point in time: seconds since the start of 1970 and nanoseconds after them. In a leap second
the nanoseconds go on past a full second. -/
structure Instant where
  seconds : Int
  nanos : Nat
deriving DecidableEq

/-- A day of the proleptic Gregorian calendar; the year before year 1 is year 0. -/
structure CalendarDay where
  year : Int
  month : Nat
  day : Nat
deriving DecidableEq

/-- The calendar day that lies a number of days after the first day of 1970. Years are counted from
March, so that the leap day is the last of its year. -/
def CalendarDay.ofDays (days : Int) : CalendarDay :=
  let shifted := days + 719468
  let era := shifted / 146097
  let dayOfEra := (shifted % 146097).toNat
  let yearOfEra :=
    (dayOfEra - dayOfEra / 1460 + dayOfEra / 36524 - dayOfEra / 146096) / 365
  let dayOfYear := dayOfEra - (365 * yearOfEra + yearOfEra / 4 - yearOfEra / 100)
  let monthFromMarch := (5 * dayOfYear + 2) / 153
  let month := if monthFromMarch < 10 then monthFromMarch + 3 else monthFromMarch - 9
  { year := era * 400 + yearOfEra + (if month ≤ 2 then 1 else 0)
    month := month
    day := dayOfYear - (153 * monthFromMarch + 2) / 5 + 1 }

/-- A year of four digits at least; outside 0 to 9999 its sign is written. -/
def yearText (year : Int) : List Char :=
  let digits := padLeft 4 (decimalChars year.natAbs)
  if year < 0 then '-' :: digits else if 9999 < year then '+' :: digits else digits

namespace Instant

/-- Seconds of a day. -/
def daySeconds : Int := 86400

/-- The calendar day of an instant. -/
def day (instant : Instant) : CalendarDay :=
  CalendarDay.ofDays (instant.seconds / daySeconds)

/-- An instant from its two counts: the nanoseconds stay below a second, save that the last second
of a minute may be a leap second, and the year lies in the calendar's range. -/
def of? (seconds : Int) (nanos : Nat) : Option Instant :=
  let year := (CalendarDay.ofDays (seconds / daySeconds)).year
  let leap := seconds % 60 = 59
  if nanos < 2000000000 ∧ (nanos < 1000000000 ∨ leap) ∧ -262143 ≤ year ∧ year ≤ 262142 then
    some ⟨seconds, nanos⟩
  else none

end Instant

/-- A time zone: how many seconds its clocks are ahead of universal time at each instant. -/
class Zone where
  ahead : Instant → Int

/-- Universal time is the zone of a system that does not tell any. -/
instance (priority := low) Zone.universal : Zone := ⟨fun _ => 0⟩

variable [Zone]

namespace Instant

/-- What the clocks of the zone show at an instant, as the instant at which universal time does. -/
def onClock (instant : Instant) : Instant :=
  { instant with seconds := instant.seconds + Zone.ahead instant }

/-- Date and time of day in the zone, to the second. -/
def text (instant : Instant) : String :=
  let shown := instant.onClock
  let date := shown.day
  let second := (shown.seconds % daySeconds).toNat
  let two := fun value => padLeft 2 (decimalChars value)
  String.ofList
    (yearText date.year ++ '-' :: two date.month ++ '-' :: two date.day ++ ' ' ::
      two (second / 3600) ++ ':' :: two (second / 60 % 60) ++ ':' :: two (second % 60))

end Instant

namespace FileTime

/-- Ticks from the start of 1601 to the start of 1970. -/
def unixEpoch : Int := 116444736000000000

/-- Ticks of one second. -/
def ticksPerSecond : Int := 10000000

/-- The instant that a calendar makes of the seconds and nanoseconds from 1970 to a file time: none
when that distance leaves 64 bits. -/
def instantWith? (of? : Int → Nat → Option Instant) (time : FileTime) : Option Instant :=
  let distance := time.ticks.toInt - unixEpoch
  if distance < -0x8000000000000000 then none
  else of? (distance / ticksPerSecond) ((distance % ticksPerSecond).toNat * 100)

/-- The instant of a file time. -/
def instant? (time : FileTime) : Option Instant := time.instantWith? Instant.of?

/-- The file time of an instant, each step of the count wrapped to 64 bits. -/
def ofInstant (instant : Instant) : FileTime :=
  ⟨Int64.ofInt instant.seconds * Int64.ofInt ticksPerSecond + Int64.ofInt (instant.nanos / 100) +
    Int64.ofInt unixEpoch⟩

/-- Date and time of day in the zone; a time without an instant shows its ticks. -/
def text (time : FileTime) : String :=
  match time.instant? with
  | some instant => instant.text
  | none => signedDecimal time.ticks.toInt

/-- The ticks from one time to a later one, stopping at the ends of the 64-bit range. -/
def ticksSince (now past : FileTime) : Int :=
  max (-0x8000000000000000) (min (0x8000000000000000 - 1) (now.ticks.toInt - past.ticks.toInt))

end FileTime

end DeviceBrowser

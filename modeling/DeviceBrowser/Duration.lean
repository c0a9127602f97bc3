/-! Spans of time in nanoseconds, bounded above by what 64 bits of seconds hold. -/

namespace DeviceBrowser

/-- A span of time. -/
structure Duration where
  nanos : Nat
deriving DecidableEq, Inhabited

namespace Duration

/-- No time at all. -/
def zero : Duration := ⟨0⟩

/-- The longest span: the largest 64-bit count of seconds and a nanosecond less than one more. -/
def longest : Duration := ⟨0x10000000000000000 * 1000000000 - 1⟩

/-- A span of whole milliseconds. -/
def ofMillis (millis : Nat) : Duration := ⟨millis * 1000000⟩

/-- The whole milliseconds of a span. -/
def millis (span : Duration) : Nat := span.nanos / 1000000

/-- The sum of two spans. -/
def add (left right : Duration) : Duration := ⟨left.nanos + right.nanos⟩

/-- The sum of two spans, stopping at the longest. -/
def addCapped (left right : Duration) : Duration :=
  ⟨min (left.nanos + right.nanos) longest.nanos⟩

/-- What is left of a span after another, and nothing once the other is as long. -/
def less (span elapsed : Duration) : Duration := ⟨span.nanos - elapsed.nanos⟩

/-- Whether one span is at least as long as another. -/
def atLeast (span other : Duration) : Bool := other.nanos ≤ span.nanos

/-- Spending two spans in turn is spending their sum. -/
theorem less_less (span first second : Duration) :
    (span.less first).less second = span.less (first.add second) := by
  -- Subtraction that stops at zero composes by adding the amounts.
  simp [less, add, Nat.sub_sub]

end Duration

end DeviceBrowser

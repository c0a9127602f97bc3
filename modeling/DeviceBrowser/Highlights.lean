import DeviceBrowser.Color
import DeviceBrowser.Duration
import DeviceBrowser.Table

/-! Highlights of devices that arrived: each has a color and a time that runs out. -/

namespace DeviceBrowser

/-- A highlight that is running. -/
structure Highlight where
  remaining : Duration
  color : Color
deriving DecidableEq

/-- The running highlights by the checksums of their devices. -/
abbrev Highlights := Table UInt32 Highlight

namespace Highlights

/-- No highlight. -/
def none : Highlights := .empty

/-- Starts a highlight, or starts it again. One of no time at all changes nothing. -/
def start (highlights : Highlights) (hash : UInt32) (span : Duration) (color : Color) :
    Highlights :=
  if span = .zero then highlights else highlights.insert hash ⟨span, color⟩

/-- Lets time pass: the highlights whose time has run out, by ascending checksum, and those that go
on. -/
def tick (highlights : Highlights) (elapsed : Duration) : List UInt32 × Highlights :=
  let passed := highlights.rows.map fun (hash, highlight) =>
    (hash, { highlight with remaining := highlight.remaining.less elapsed })
  let ended := fun row : UInt32 × Highlight => row.2.remaining = Duration.zero
  ((passed.filter (ended ·)).map (·.1), ⟨passed.filter fun row => !ended row⟩)

end Highlights

end DeviceBrowser

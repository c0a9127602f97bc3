/-! Measures in the window: lengths are in 32nds of a point of the screen, and a scale in percent
says how many dots a point has. -/

namespace DeviceBrowser

/-- The length of a number of points. -/
def points (count : Int) : Int := 32 * count

/-- The length of a number of dots at a scale. -/
def dotLength (scale : Nat) (dots : Int) : Int := points (100 * dots) / scale

/-- The size of letters at a scale: 12.5 points, in thousandths of a dot. -/
def letterSize (scale : Nat) : Nat := 125 * scale

/-- The size of letters where a dot is a point. -/
def textSize : Nat := letterSize 100

/-- The points from the end of a text to the position beside it. -/
def besideGap : Int := 8

end DeviceBrowser

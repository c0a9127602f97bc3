/-! Colors: three components, their number `0xRRGGBB`, and mixtures of two. -/

namespace DeviceBrowser

/-- A color of red, green and blue components. -/
structure Color where
  red : UInt8
  green : UInt8
  blue : UInt8
deriving DecidableEq, Inhabited

namespace Color

/-- The color of a number; bits above the lowest 24 do not count. -/
def ofNumber (number : UInt32) : Color :=
  ⟨(number >>> 16).toUInt8, (number >>> 8).toUInt8, number.toUInt8⟩

/-- The number of a color. -/
def number (color : Color) : UInt32 :=
  color.red.toUInt32 <<< 16 ||| color.green.toUInt32 <<< 8 ||| color.blue.toUInt32

/-- A component with a share of another mixed in, cut to a whole number. -/
def mixComponent (base other : UInt8) (share : Float32) : UInt8 :=
  (base.toFloat32 * (1 - share) + other.toFloat32 * share).toUInt8

/-- A color with a share of another mixed in. -/
def mix (base other : Color) (share : Float32) : Color :=
  ⟨mixComponent base.red other.red share, mixComponent base.green other.green share,
    mixComponent base.blue other.blue share⟩

end Color

end DeviceBrowser

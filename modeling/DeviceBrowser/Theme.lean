import DeviceBrowser.Pixel

/-! Themes: the dark and the light palette, the style that widgets take from it, and the fill of a
device's row. -/

namespace DeviceBrowser

/-- A palette by the meaning of its colors. `rowBlend` is the share of the panel's color in the fill
of a row. -/
structure Theme where
  isDark : Bool
  panel : Pixel
  raised : Pixel
  hover : Pixel
  text : Pixel
  dimText : Pixel
  accent : Pixel
  outline : Pixel
  selection : Pixel
  rowBlend : Float32

/-- The colors of a widget in one of its states. -/
structure WidgetColors where
  fill : Pixel
  ink : Pixel

/-- The style of the windows and widgets. -/
structure Style where
  isDark : Bool
  panel : Pixel
  window : Pixel
  extreme : Pixel
  faint : Pixel
  windowStroke : Pixel
  selection : Pixel
  selectionStroke : Pixel
  passive : WidgetColors
  idle : WidgetColors
  hovered : WidgetColors
  active : WidgetColors

namespace Theme

/-- A color of a palette. -/
def solid (red green blue : UInt8) : Pixel := .ofColor ⟨red, green, blue⟩

/-- The dark theme. -/
def dark : Theme where
  isDark := true
  panel := solid 0x1b 0x1f 0x24
  raised := solid 0x25 0x2b 0x32
  hover := solid 0x30 0x38 0x41
  text := solid 0xdc 0xe2 0xe8
  dimText := solid 0x9a 0xa6 0xb2
  accent := solid 0x4f 0xc1 0xb6
  outline := solid 0x38 0x41 0x4b
  selection := solid 0x1f 0x4a 0x4d
  rowBlend := 0.6

/-- The light theme. Its selection lets the row shine through. -/
def light : Theme where
  isDark := false
  panel := solid 0xf3 0xf5 0xf7
  raised := solid 0xfd 0xfd 0xfe
  hover := solid 0xe2 0xe8 0xec
  text := solid 0x1d 0x24 0x2b
  dimText := solid 0x52 0x5e 0x6a
  accent := solid 0x0f 0x7f 0x78
  outline := solid 0xc9 0xd1 0xd8
  selection := ⟨0x0f, 0x7f, 0x78, 0x38⟩
  rowBlend := 0

/-- The theme for darkness or light. -/
def of (isDark : Bool) : Theme := if isDark then dark else light

/-- The style that a theme sets. -/
def style (theme : Theme) : Style where
  isDark := theme.isDark
  panel := theme.panel
  window := theme.raised
  extreme := theme.panel
  faint := theme.raised
  windowStroke := theme.outline
  selection := theme.selection
  selectionStroke := theme.accent
  passive := ⟨theme.raised, theme.text⟩
  idle := ⟨theme.raised, theme.dimText⟩
  hovered := ⟨theme.hover, theme.accent⟩
  active := ⟨theme.accent, theme.panel⟩

/-- The fill of a row of a device's color: the color with some of the panel mixed in. -/
def rowFill (theme : Theme) (color : Color) : Pixel :=
  .ofColor (color.mix theme.panel.color theme.rowBlend)

end Theme

end DeviceBrowser

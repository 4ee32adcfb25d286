import Vitae.Layout.Columns
import Vitae.Picture

/-! A small picture of a layout: its header with a circle for the avatar and a bar for each of two
lines, and a block for each column. No résumé is looked at. -/

namespace Vitae.Preview

def padding : Float := 10.0

def lineHeight : Float := 4.0

def block (x top width height : Float) (color lineColor : String) : List Mark :=
  [⟨"preview-block", .rect x top width height, Picture.translucent color 0.35⟩,
    ⟨"preview-line", .rect (x + 6.0) (top + 6.0) (width * 0.5) lineHeight,
      Picture.fill lineColor⟩]

/-- One block for each of two side columns, and a single one in every other case. -/
def blocks (layout : Layout) (width height : Float) : List Mark :=
  let top := height * 0.25 + padding
  let blockHeight := height - top - padding
  let inner := width - 2.0 * padding
  let colors := layout.colors
  if layout.sections.columns.isTwoColumn then
    let left := (inner - padding) * 0.4
    block padding top left blockHeight colors.secondary colors.primary ++
      block (2.0 * padding + left) top (inner - padding - left) blockHeight colors.accent
        colors.primary
  else block padding top inner blockHeight colors.secondary colors.primary

def avatar (x y radius : Float) : Mark :=
  ⟨"preview-avatar", .circle x y radius, Picture.translucent Layout.white 0.9⟩

def firstLine (x y width : Float) : Mark :=
  ⟨"preview-line", .rect x y width lineHeight, Picture.fill Layout.white⟩

def secondLine (x y width : Float) : Mark :=
  ⟨"preview-line", .rect x y width lineHeight, Picture.translucent Layout.white 0.7⟩

/-- Where the marks of the header go within its band. -/
def header (layout : HeaderLayout) (width height : Float) : List Mark :=
  let band := height * 0.25
  let wide := width * 0.4
  let narrow := width * 0.25
  match layout.style with
  | .centered =>
    let radius := band * 0.2
    (if layout.showAvatar then [avatar (width / 2.0) (band * 0.32) radius] else []) ++
      [firstLine ((width - wide) / 2.0) (band * 0.6) wide,
        secondLine ((width - narrow) / 2.0) (band * 0.76) narrow]
  | .rightAligned =>
    let radius := band * 0.3
    let room := if layout.showAvatar then 2.0 * radius + padding else 0.0
    (if layout.showAvatar then [avatar (width - padding - radius) (band / 2.0) radius] else []) ++
      [firstLine (width - padding - room - wide) (band * 0.3) wide,
        secondLine (width - padding - room - narrow) (band * 0.55) narrow]
  | .leftAligned | .split =>
    let radius := band * 0.3
    let room := if layout.showAvatar then 2.0 * radius + padding else 0.0
    (if layout.showAvatar then [avatar (padding + radius) (band / 2.0) radius] else []) ++
      [firstLine (padding + room) (band * 0.3) wide,
        secondLine (padding + room) (band * 0.55) narrow]

end Preview

def Layout.preview (layout : Layout) (width height : Float) : Picture where
  width := width
  height := height
  marks :=
    [⟨"preview-background", .rect 0.0 0.0 width height, Picture.fill layout.colors.background⟩,
      ⟨"preview-header", .rect 0.0 0.0 width (height * 0.25), Picture.fill layout.colors.primary⟩] ++
    Preview.header layout.header width height ++ Preview.blocks layout width height

end Vitae

import Vitae.Color
import Vitae.Template.Basic

/-! One archetype per category: a fixed structure, and a palette whose secondary and accent colors
are shades of a single primary color. -/

namespace Vitae

def HexColor.palette (primary secondary accent : HexColor) (background text : String) : Palette :=
  ⟨primary.toHex, secondary.toHex, accent.toHex, background, text⟩

namespace Layout

/-- Serif headings, and detailed experience beside skills and education. -/
def professional (primary : HexColor) : Layout where
  header := ⟨.leftAligned, false, true⟩
  sections := ⟨⟨.list, .left⟩, ⟨.detailed, .right⟩, ⟨.simple, .left⟩⟩
  colors := primary.palette (primary.darken 20) (primary.lighten 40) white "#1f2937"
  typography :=
    ⟨"Georgia, 'Times New Roman', serif", "'Helvetica Neue', Arial, sans-serif", .medium⟩

/-- A split header with a picture, chips for skills and a timeline for experience. -/
def modern (primary : HexColor) : Layout where
  header := ⟨.split, true, true⟩
  sections := ⟨⟨.chips, .left⟩, ⟨.timeline, .right⟩, ⟨.cards, .left⟩⟩
  colors := primary.palette (primary.lighten 30) (primary.lighten 45) white "#111827"
  typography := ⟨"'Inter', system-ui, sans-serif", "'Inter', system-ui, sans-serif", .large⟩

/-- A centered header, experience on the left and bars for skills on the right. -/
def creative (primary : HexColor) : Layout where
  header := ⟨.centered, true, true⟩
  sections := ⟨⟨.bars, .right⟩, ⟨.cards, .left⟩, ⟨.cards, .right⟩⟩
  colors := primary.palette (primary.lighten 20) (primary.darken 15) "#fafafa" "#1f2937"
  typography := ⟨"'Poppins', sans-serif", "'Nunito', sans-serif", .large⟩

/-- One column of plain lists under small headings. -/
def minimal (primary : HexColor) : Layout where
  header := ⟨.leftAligned, false, true⟩
  sections := ⟨⟨.list, .fullWidth⟩, ⟨.simple, .fullWidth⟩, ⟨.list, .fullWidth⟩⟩
  colors := primary.palette (primary.lighten 40) (primary.darken 10) white "#374151"
  typography :=
    ⟨"system-ui, -apple-system, sans-serif", "system-ui, -apple-system, sans-serif", .small⟩

def ofCategory : Category → HexColor → Layout
  | .professional => professional
  | .modern => modern
  | .creative => creative
  | .minimal => minimal

end Layout

def Template.archetype (category : Category) (key name description : String)
    (primary : HexColor) : Template :=
  ⟨key, name, description, category, Layout.ofCategory category primary⟩

end Vitae

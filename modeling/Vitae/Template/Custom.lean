import Vitae.Layout.Overrides
import Vitae.Template.Archetype

/-! A template of one's own: whatever its author leaves open is taken from a neutral layout. -/

namespace Vitae

def Layout.neutral : Layout where
  header := ⟨.leftAligned, true, true⟩
  sections := ⟨⟨.chips, .left⟩, ⟨.cards, .right⟩, ⟨.list, .left⟩⟩
  colors := ⟨"#3b82f6", "#64748b", "#93c5fd", Layout.white, "#1f2937"⟩
  typography := ⟨"system-ui, sans-serif", "system-ui, sans-serif", .medium⟩

structure CustomSpec where
  key : String
  name : String
  description : String := ""
  category : Category
  layout : LayoutOverrides := {}
  deriving DecidableEq, Repr, Inhabited

def CustomSpec.template (spec : CustomSpec) : Template :=
  ⟨spec.key, spec.name, spec.description, spec.category, Layout.neutral.override spec.layout⟩

end Vitae

import Vitae.Layout.Style

/-! What a template fixes about a page: the header, where each section goes and in which style, the
palette and the fonts. Colors and fonts are whatever text the author of the template chose. -/

namespace Vitae

structure HeaderLayout where
  style : HeaderStyle
  showAvatar : Bool
  showTitle : Bool
  deriving DecidableEq, Repr, Inhabited

structure SectionLayout (σ : Type) where
  style : σ
  position : Position
  deriving DecidableEq, Repr, Inhabited

structure SectionsLayout where
  skills : SectionLayout SkillsStyle
  experience : SectionLayout ExperienceStyle
  education : SectionLayout EducationStyle
  deriving DecidableEq, Repr, Inhabited

structure Palette where
  primary : String
  secondary : String
  accent : String
  background : String
  text : String
  deriving DecidableEq, Repr, Inhabited

structure Typography where
  headingFont : String
  bodyFont : String
  headingSize : HeadingSize
  deriving DecidableEq, Repr, Inhabited

structure Layout where
  header : HeaderLayout
  sections : SectionsLayout
  colors : Palette
  typography : Typography
  deriving DecidableEq, Repr, Inhabited

def Layout.white : String := "#ffffff"

end Vitae

import Vitae.Layout.Basic

/-! A partial layout, and its application to a whole one: what it gives replaces, what it leaves out
stays, and a group it leaves out is the same as a group with nothing in it. -/

namespace Vitae

structure HeaderOverrides where
  style : Option HeaderStyle := none
  showAvatar : Option Bool := none
  showTitle : Option Bool := none
  deriving DecidableEq, Repr, Inhabited

structure SectionOverride (σ : Type) where
  style : Option σ := none
  position : Option Position := none
  deriving DecidableEq, Repr, Inhabited

structure SectionsOverrides where
  skills : Option (SectionOverride SkillsStyle) := none
  experience : Option (SectionOverride ExperienceStyle) := none
  education : Option (SectionOverride EducationStyle) := none
  deriving DecidableEq, Repr, Inhabited

structure PaletteOverrides where
  primary : Option String := none
  secondary : Option String := none
  accent : Option String := none
  background : Option String := none
  text : Option String := none
  deriving DecidableEq, Repr, Inhabited

structure TypographyOverrides where
  headingFont : Option String := none
  bodyFont : Option String := none
  headingSize : Option HeadingSize := none
  deriving DecidableEq, Repr, Inhabited

structure LayoutOverrides where
  header : Option HeaderOverrides := none
  sections : Option SectionsOverrides := none
  colors : Option PaletteOverrides := none
  typography : Option TypographyOverrides := none
  deriving DecidableEq, Repr, Inhabited

def HeaderLayout.override (base : HeaderLayout) (o : HeaderOverrides) : HeaderLayout :=
  ⟨o.style.getD base.style, o.showAvatar.getD base.showAvatar, o.showTitle.getD base.showTitle⟩

def SectionLayout.override {σ : Type} (base : SectionLayout σ) (o : SectionOverride σ) :
    SectionLayout σ :=
  ⟨o.style.getD base.style, o.position.getD base.position⟩

def SectionsLayout.override (base : SectionsLayout) (o : SectionsOverrides) : SectionsLayout :=
  ⟨o.skills.elim base.skills base.skills.override,
    o.experience.elim base.experience base.experience.override,
    o.education.elim base.education base.education.override⟩

def Palette.override (base : Palette) (o : PaletteOverrides) : Palette :=
  ⟨o.primary.getD base.primary, o.secondary.getD base.secondary, o.accent.getD base.accent,
    o.background.getD base.background, o.text.getD base.text⟩

def Typography.override (base : Typography) (o : TypographyOverrides) : Typography :=
  ⟨o.headingFont.getD base.headingFont, o.bodyFont.getD base.bodyFont,
    o.headingSize.getD base.headingSize⟩

def Layout.override (base : Layout) (o : LayoutOverrides) : Layout :=
  ⟨o.header.elim base.header base.header.override,
    o.sections.elim base.sections base.sections.override,
    o.colors.elim base.colors base.colors.override,
    o.typography.elim base.typography base.typography.override⟩

end Vitae

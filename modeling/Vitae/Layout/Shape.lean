import Vitae.Layout.Overrides
import Vitae.Shape.Basic

/-! The shapes of a whole layout, where nothing may be left out, and of a partial one, where
everything may but nothing may be misspelt. -/

namespace Vitae

def Category.shape : Shape Category := .choice Category.all Category.name

def HeaderStyle.shape : Shape HeaderStyle := .choice HeaderStyle.all HeaderStyle.name

def SkillsStyle.shape : Shape SkillsStyle := .choice SkillsStyle.all SkillsStyle.name

def ExperienceStyle.shape : Shape ExperienceStyle :=
  .choice ExperienceStyle.all ExperienceStyle.name

def EducationStyle.shape : Shape EducationStyle := .choice EducationStyle.all EducationStyle.name

def Position.shape : Shape Position := .choice Position.all Position.name

def HeadingSize.shape : Shape HeadingSize := .choice HeadingSize.all HeadingSize.name

def HeaderLayout.shape : Shape HeaderLayout :=
  .record "HeaderLayout" false
    (.cons (.required "style") HeaderStyle.shape <|
      .cons (.required "show_avatar") .flag <|
      .cons (.required "show_title") .flag .nil)
    (fun (style, showAvatar, showTitle, ()) => { style, showAvatar, showTitle })
    (fun h => (h.style, h.showAvatar, h.showTitle, ()))

def SectionLayout.shape {σ : Type} (style : Shape σ) : Shape (SectionLayout σ) :=
  .record "SectionLayout" false
    (.cons (.required "style") style <|
      .cons (.required "position") Position.shape .nil)
    (fun (style, position, ()) => { style, position })
    (fun s => (s.style, s.position, ()))

def SectionsLayout.shape : Shape SectionsLayout :=
  .record "SectionsLayout" false
    (.cons (.required "skills") (SectionLayout.shape SkillsStyle.shape) <|
      .cons (.required "experience") (SectionLayout.shape ExperienceStyle.shape) <|
      .cons (.required "education") (SectionLayout.shape EducationStyle.shape) .nil)
    (fun (skills, experience, education, ()) => { skills, experience, education })
    (fun s => (s.skills, s.experience, s.education, ()))

def Palette.shape : Shape Palette :=
  .record "Colors" false
    (.cons (.required "primary") .text <|
      .cons (.required "secondary") .text <|
      .cons (.required "accent") .text <|
      .cons (.required "background") .text <|
      .cons (.required "text") .text .nil)
    (fun (primary, secondary, accent, background, text, ()) =>
      { primary, secondary, accent, background, text })
    (fun p => (p.primary, p.secondary, p.accent, p.background, p.text, ()))

def Typography.shape : Shape Typography :=
  .record "Typography" false
    (.cons (.required "heading_font") .text <|
      .cons (.required "body_font") .text <|
      .cons (.required "heading_size") HeadingSize.shape .nil)
    (fun (headingFont, bodyFont, headingSize, ()) => { headingFont, bodyFont, headingSize })
    (fun t => (t.headingFont, t.bodyFont, t.headingSize, ()))

def Layout.shape : Shape Layout :=
  .record "Layout" false
    (.cons (.required "header") HeaderLayout.shape <|
      .cons (.required "sections") SectionsLayout.shape <|
      .cons (.required "colors") Palette.shape <|
      .cons (.required "typography") Typography.shape .nil)
    (fun (header, sections, colors, typography, ()) => { header, sections, colors, typography })
    (fun l => (l.header, l.sections, l.colors, l.typography, ()))

def HeaderOverrides.shape : Shape HeaderOverrides :=
  .record "HeaderOverrides" true
    (.cons (.nullable "style") (.optional HeaderStyle.shape) <|
      .cons (.nullable "show_avatar") (.optional .flag) <|
      .cons (.nullable "show_title") (.optional .flag) .nil)
    (fun (style, showAvatar, showTitle, ()) => { style, showAvatar, showTitle })
    (fun h => (h.style, h.showAvatar, h.showTitle, ()))

def SectionOverride.shape {σ : Type} (style : Shape σ) : Shape (SectionOverride σ) :=
  .record "SectionOverride" true
    (.cons (.nullable "style") (.optional style) <|
      .cons (.nullable "position") (.optional Position.shape) .nil)
    (fun (style, position, ()) => { style, position })
    (fun s => (s.style, s.position, ()))

def SectionsOverrides.shape : Shape SectionsOverrides :=
  .record "SectionsOverrides" true
    (.cons (.nullable "skills") (.optional (SectionOverride.shape SkillsStyle.shape)) <|
      .cons (.nullable "experience") (.optional (SectionOverride.shape ExperienceStyle.shape)) <|
      .cons (.nullable "education") (.optional (SectionOverride.shape EducationStyle.shape)) .nil)
    (fun (skills, experience, education, ()) => { skills, experience, education })
    (fun s => (s.skills, s.experience, s.education, ()))

def PaletteOverrides.shape : Shape PaletteOverrides :=
  .record "ColorOverrides" true
    (.cons (.nullable "primary") (.optional .text) <|
      .cons (.nullable "secondary") (.optional .text) <|
      .cons (.nullable "accent") (.optional .text) <|
      .cons (.nullable "background") (.optional .text) <|
      .cons (.nullable "text") (.optional .text) .nil)
    (fun (primary, secondary, accent, background, text, ()) =>
      { primary, secondary, accent, background, text })
    (fun p => (p.primary, p.secondary, p.accent, p.background, p.text, ()))

def TypographyOverrides.shape : Shape TypographyOverrides :=
  .record "TypographyOverrides" true
    (.cons (.nullable "heading_font") (.optional .text) <|
      .cons (.nullable "body_font") (.optional .text) <|
      .cons (.nullable "heading_size") (.optional HeadingSize.shape) .nil)
    (fun (headingFont, bodyFont, headingSize, ()) => { headingFont, bodyFont, headingSize })
    (fun t => (t.headingFont, t.bodyFont, t.headingSize, ()))

def LayoutOverrides.shape : Shape LayoutOverrides :=
  .record "LayoutOverrides" true
    (.cons (.nullable "header") (.optional HeaderOverrides.shape) <|
      .cons (.nullable "sections") (.optional SectionsOverrides.shape) <|
      .cons (.nullable "colors") (.optional PaletteOverrides.shape) <|
      .cons (.nullable "typography") (.optional TypographyOverrides.shape) .nil)
    (fun (header, sections, colors, typography, ()) => { header, sections, colors, typography })
    (fun l => (l.header, l.sections, l.colors, l.typography, ()))

end Vitae

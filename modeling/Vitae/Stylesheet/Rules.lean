import Vitae.Stylesheet.Basic

/-! The stylesheet of a layout: the palette, what is reset, one rule for every class of the
vocabulary, and fixed sizes for print. -/

namespace Vitae

def Layout.palette (layout : Layout) : Rule :=
  ⟨[.root],
    [⟨.variable .primary, layout.colors.primary⟩,
      ⟨.variable .secondary, layout.colors.secondary⟩,
      ⟨.variable .accent, layout.colors.accent⟩,
      ⟨.variable .background, layout.colors.background⟩,
      ⟨.variable .text, layout.colors.text⟩,
      ⟨.variable .headingFont, layout.typography.headingFont⟩,
      ⟨.variable .bodyFont, layout.typography.bodyFont⟩]⟩

namespace Rule

/-- What browsers set by themselves. -/
def resets : List Rule :=
  [⟨[.inside .resume .any, .inside .resume .anyBefore, .inside .resume .anyAfter],
      [⟨"box-sizing", "border-box"⟩, ⟨"margin", "0"⟩, ⟨"padding", "0"⟩]⟩,
    ⟨[.inside .resume (.tag .h1), .inside .resume (.tag .h2), .inside .resume (.tag .h3)],
      [⟨"font-family", Variable.headingFont⟩, ⟨"line-height", "1.2"⟩]⟩,
    ⟨[.inside .resume (.tag .ul)], [⟨"list-style", "none"⟩]⟩]

/-- Sizes for a page on paper, whatever the template says. -/
def print : List Rule :=
  [⟨[.class .resume],
      [⟨"max-width", "none"⟩, ⟨"padding", "24px"⟩, ⟨"-webkit-print-color-adjust", "exact"⟩,
        ⟨"print-color-adjust", "exact"⟩]⟩,
    ⟨[.class .header], [⟨"padding-bottom", "16px"⟩, ⟨"margin-bottom", "16px"⟩]⟩,
    ⟨[.class .name], [⟨"font-size", "28px"⟩]⟩,
    ⟨[.class .sectionTitle], [⟨"font-size", "16px"⟩]⟩,
    ⟨[.class .jobTitle, .class .degree], [⟨"font-size", "14px"⟩]⟩,
    ⟨[.class .avatar], [⟨"width", "80px"⟩, ⟨"height", "80px"⟩]⟩,
    ⟨[.class .content, .class .column, .class .fullWidth], [⟨"gap", "16px"⟩]⟩,
    ⟨[.class .section], [⟨"break-inside", "avoid-page"⟩]⟩]

end Rule

def HeaderStyle.declarations : HeaderStyle → List Declaration
  | centered => [⟨"flex-direction", "column"⟩, ⟨"text-align", "center"⟩]
  | leftAligned => [⟨"flex-direction", "row"⟩, ⟨"text-align", "left"⟩]
  | rightAligned => [⟨"flex-direction", "row-reverse"⟩, ⟨"text-align", "right"⟩]
  | split => [⟨"justify-content", "space-between"⟩, ⟨"align-items", "flex-start"⟩]

/-- Where contact details stand within the header. -/
def HeaderStyle.contactDeclarations : HeaderStyle → List Declaration
  | centered => [⟨"justify-content", "center"⟩]
  | leftAligned => [⟨"justify-content", "flex-start"⟩]
  | rightAligned => [⟨"justify-content", "flex-end"⟩]
  | split => [⟨"flex-direction", "column"⟩, ⟨"align-items", "flex-end"⟩, ⟨"margin-top", "0"⟩]

namespace SkillsStyle

def declarations : SkillsStyle → List Declaration
  | chips => [⟨"display", "flex"⟩, ⟨"flex-wrap", "wrap"⟩]
  | list => [⟨"display", "flex"⟩, ⟨"flex-direction", "column"⟩, ⟨"gap", "4px"⟩]
  | grid => [⟨"display", "grid"⟩, ⟨"grid-template-columns", "repeat(2, minmax(0, 1fr))"⟩]
  | bars => [⟨"display", "flex"⟩, ⟨"flex-direction", "column"⟩, ⟨"gap", "10px"⟩]

def itemDeclarations : SkillsStyle → List Declaration
  | chips =>
    [⟨"padding", "4px 12px"⟩, ⟨"border-radius", "9999px"⟩, ⟨"background", Variable.primary⟩,
      ⟨"color", Layout.white⟩]
  | list => [⟨"padding-left", "12px"⟩, ⟨"border-left", .line 3 .accent⟩]
  | grid =>
    [⟨"padding", "6px 10px"⟩, ⟨"border", .line 1 .secondary⟩, ⟨"border-radius", "4px"⟩,
      ⟨"text-align", "center"⟩]
  | bars => [⟨"display", "flex"⟩, ⟨"flex-direction", "column"⟩, ⟨"gap", "4px"⟩]

end SkillsStyle

namespace ExperienceStyle

def declarations : ExperienceStyle → List Declaration
  | timeline =>
    [⟨"position", "relative"⟩, ⟨"padding-left", "20px"⟩, ⟨"border-left", .line 2 .secondary⟩]
  | cards | simple => [⟨"gap", "12px"⟩]
  | detailed => [⟨"gap", "20px"⟩]

def itemDeclarations : ExperienceStyle → List Declaration
  | cards => [⟨"padding", "16px"⟩, ⟨"border", .line 1 .accent⟩, ⟨"border-radius", "8px"⟩]
  | timeline => [⟨"padding-left", "8px"⟩]
  | simple => [⟨"padding-bottom", "8px"⟩]
  | detailed => [⟨"padding-bottom", "12px"⟩, ⟨"border-bottom", .line 1 .accent⟩]

end ExperienceStyle

namespace EducationStyle

def declarations : EducationStyle → List Declaration
  | cards => [⟨"gap", "12px"⟩]
  | list => [⟨"gap", "6px"⟩]
  | simple => [⟨"gap", "8px"⟩]

def itemDeclarations : EducationStyle → List Declaration
  | cards => [⟨"padding", "12px"⟩, ⟨"border", .line 1 .accent⟩, ⟨"border-radius", "8px"⟩]
  | list => [⟨"flex-direction", "row"⟩, ⟨"flex-wrap", "wrap"⟩, ⟨"gap", "4px 8px"⟩]
  | simple => [⟨"padding-bottom", "4px"⟩]

end EducationStyle

/-- A section may be cut between pages only where it may grow long. -/
def SectionKind.declarations : SectionKind → List Declaration
  | experience => [⟨"break-inside", "auto"⟩]
  | skills | education => [⟨"break-inside", "avoid"⟩]

/-- What the layout says about a class. -/
def Class.declarations (layout : Layout) : Class → List Declaration
  | resume =>
    [⟨"font-family", Variable.bodyFont⟩, ⟨"color", Variable.text⟩,
      ⟨"background", Variable.background⟩, ⟨"max-width", "800px"⟩, ⟨"margin", "0 auto"⟩,
      ⟨"padding", "40px"⟩, ⟨"line-height", "1.5"⟩]
  | header =>
    [⟨"display", "flex"⟩, ⟨"align-items", "center"⟩, ⟨"gap", "24px"⟩, ⟨"padding-bottom", "24px"⟩,
      ⟨"margin-bottom", "24px"⟩, ⟨"border-bottom", .line 2 .primary⟩]
  | headerVariant style => style.declarations
  | avatar =>
    [⟨"width", "96px"⟩, ⟨"height", "96px"⟩, ⟨"border-radius", "50%"⟩, ⟨"object-fit", "cover"⟩,
      ⟨"flex-shrink", "0"⟩, ⟨"border", .line 3 .primary⟩]
  | avatarInitials =>
    [⟨"display", "flex"⟩, ⟨"align-items", "center"⟩, ⟨"justify-content", "center"⟩,
      ⟨"background", Variable.primary⟩, ⟨"color", Layout.white⟩, ⟨"font-size", "32px"⟩,
      ⟨"font-weight", "700"⟩]
  | identity =>
    [⟨"display", "flex"⟩, ⟨"flex-direction", "column"⟩, ⟨"gap", "4px"⟩, ⟨"min-width", "0"⟩]
  | name =>
    [⟨"color", Variable.primary⟩,
      ⟨"font-size", .pixels layout.typography.headingSize.scale.personName⟩,
      ⟨"font-weight", "700"⟩]
  | title => [⟨"color", Variable.secondary⟩, ⟨"font-size", "18px"⟩]
  | contact =>
    [⟨"display", "flex"⟩, ⟨"flex-wrap", "wrap"⟩, ⟨"gap", "4px 12px"⟩, ⟨"font-size", "14px"⟩,
      ⟨"margin-top", "8px"⟩] ++ layout.header.style.contactDeclarations
  | contactItem => [⟨"color", Variable.text⟩, ⟨"white-space", "nowrap"⟩]
  | summary =>
    [⟨"margin-bottom", "24px"⟩, ⟨"padding", "12px 16px"⟩, ⟨"border-left", .line 4 .accent⟩]
  | content | fullWidth | column =>
    [⟨"display", "flex"⟩, ⟨"flex-direction", "column"⟩, ⟨"gap", "24px"⟩, ⟨"min-width", "0"⟩]
  | grid =>
    [⟨"display", "grid"⟩, ⟨"grid-template-columns", "minmax(0, 1fr) minmax(0, 2fr)"⟩,
      ⟨"gap", "32px"⟩]
  | gridSingle => [⟨"grid-template-columns", "minmax(0, 1fr)"⟩]
  | columnSide .left => [⟨"grid-column", "1"⟩]
  | columnSide .right => [⟨"grid-column", "auto"⟩]
  | .section => [⟨"display", "block"⟩]
  | sectionVariant kind => kind.declarations
  | sectionTitle =>
    [⟨"color", Variable.primary⟩,
      ⟨"font-size", .pixels layout.typography.headingSize.scale.sectionTitle⟩,
      ⟨"text-transform", "uppercase"⟩, ⟨"letter-spacing", "0.05em"⟩, ⟨"padding-bottom", "4px"⟩,
      ⟨"margin-bottom", "12px"⟩, ⟨"border-bottom", .line 1 .accent⟩]
  | skills => [⟨"gap", "8px"⟩]
  | skillsVariant style => style.declarations
  | skill => [⟨"font-size", "14px"⟩]
  | skillVariant style => style.itemDeclarations
  | skillLabel => [⟨"font-size", "13px"⟩, ⟨"font-weight", "600"⟩]
  | skillTrack =>
    [⟨"height", "8px"⟩, ⟨"background", "#e5e7eb"⟩, ⟨"border-radius", "4px"⟩,
      ⟨"overflow", "hidden"⟩]
  | skillFill =>
    [⟨"height", "100%"⟩, ⟨"background", Variable.primary⟩, ⟨"border-radius", "4px"⟩]
  | experienceList => [⟨"display", "flex"⟩, ⟨"flex-direction", "column"⟩, ⟨"gap", "16px"⟩]
  | experienceListVariant style => style.declarations
  | experience => [⟨"position", "relative"⟩]
  | experienceVariant style => style.itemDeclarations
  | experienceMarker =>
    [⟨"position", "absolute"⟩, ⟨"left", "-27px"⟩, ⟨"top", "6px"⟩, ⟨"width", "12px"⟩,
      ⟨"height", "12px"⟩, ⟨"border-radius", "50%"⟩, ⟨"background", Variable.primary⟩]
  | experienceHeader =>
    [⟨"display", "flex"⟩, ⟨"flex-wrap", "wrap"⟩, ⟨"align-items", "baseline"⟩, ⟨"gap", "4px 12px"⟩,
      ⟨"margin-bottom", "6px"⟩]
  | jobTitle =>
    [⟨"font-size", .pixels layout.typography.headingSize.scale.itemTitle⟩, ⟨"width", "100%"⟩]
  | company | institution => [⟨"color", Variable.secondary⟩, ⟨"font-weight", "600"⟩]
  | duration | year => [⟨"font-size", "13px"⟩, ⟨"opacity", "0.7"⟩]
  | jobLocation => [⟨"font-size", "13px"⟩, ⟨"font-style", "italic"⟩, ⟨"opacity", "0.7"⟩]
  | responsibilities =>
    [⟨"list-style", "disc"⟩, ⟨"padding-left", "20px"⟩, ⟨"font-size", "14px"⟩]
  | responsibility => [⟨"margin-bottom", "2px"⟩]
  | educationList => [⟨"display", "flex"⟩, ⟨"flex-direction", "column"⟩, ⟨"gap", "12px"⟩]
  | educationListVariant style => style.declarations
  | education => [⟨"display", "flex"⟩, ⟨"flex-direction", "column"⟩]
  | educationVariant style => style.itemDeclarations
  | degree =>
    [⟨"font-size", .pixels layout.typography.headingSize.scale.itemTitle⟩, ⟨"font-weight", "600"⟩]

def Class.rule (layout : Layout) (c : Class) : Rule := ⟨[.class c], c.declarations layout⟩

def Layout.stylesheet (layout : Layout) : Stylesheet :=
  (layout.palette :: Rule.resets).map .rule ++
    (Class.vocabulary layout).map (fun c => .rule (c.rule layout)) ++
    [.media "print" Rule.print]

end Vitae

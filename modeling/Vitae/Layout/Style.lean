/-! The choices a template makes, each with the name it has in documents. -/

namespace Vitae

/-- The family a template belongs to. -/
inductive Category where
  | professional
  | modern
  | creative
  | minimal
  deriving DecidableEq, Repr, Inhabited

inductive HeaderStyle where
  | centered
  | leftAligned
  | rightAligned
  /-- Identity on one side, contact details on the other. -/
  | split
  deriving DecidableEq, Repr, Inhabited

inductive SkillsStyle where
  | chips
  | list
  | grid
  | bars
  deriving DecidableEq, Repr, Inhabited

inductive ExperienceStyle where
  | cards
  | timeline
  | simple
  | detailed
  deriving DecidableEq, Repr, Inhabited

inductive EducationStyle where
  | cards
  | list
  | simple
  deriving DecidableEq, Repr, Inhabited

/-- The column a section goes into. -/
inductive Position where
  | left
  | right
  | fullWidth
  deriving DecidableEq, Repr, Inhabited

inductive HeadingSize where
  | small
  | medium
  | large
  deriving DecidableEq, Repr, Inhabited

namespace Category

def all : List Category := [professional, modern, creative, minimal]

def name : Category → String
  | professional => "professional"
  | modern => "modern"
  | creative => "creative"
  | minimal => "minimal"

end Category

namespace HeaderStyle

def all : List HeaderStyle := [centered, leftAligned, rightAligned, split]

def name : HeaderStyle → String
  | centered => "centered"
  | leftAligned => "left-aligned"
  | rightAligned => "right-aligned"
  | split => "split"

end HeaderStyle

namespace SkillsStyle

def all : List SkillsStyle := [chips, list, grid, bars]

def name : SkillsStyle → String
  | chips => "chips"
  | list => "list"
  | grid => "grid"
  | bars => "bars"

end SkillsStyle

namespace ExperienceStyle

def all : List ExperienceStyle := [cards, timeline, simple, detailed]

def name : ExperienceStyle → String
  | cards => "cards"
  | timeline => "timeline"
  | simple => "simple"
  | detailed => "detailed"

end ExperienceStyle

namespace EducationStyle

def all : List EducationStyle := [cards, list, simple]

def name : EducationStyle → String
  | cards => "cards"
  | list => "list"
  | simple => "simple"

end EducationStyle

namespace Position

def all : List Position := [left, right, fullWidth]

def name : Position → String
  | left => "left"
  | right => "right"
  | fullWidth => "full-width"

end Position

namespace HeadingSize

def all : List HeadingSize := [small, medium, large]

def name : HeadingSize → String
  | small => "small"
  | medium => "medium"
  | large => "large"

/-- Sizes on screen, in pixels. -/
structure Scale where
  personName : Nat
  sectionTitle : Nat
  itemTitle : Nat
  deriving DecidableEq, Repr

def scale : HeadingSize → Scale
  | small => ⟨28, 16, 14⟩
  | medium => ⟨32, 18, 15⟩
  | large => ⟨38, 20, 16⟩

end HeadingSize

end Vitae

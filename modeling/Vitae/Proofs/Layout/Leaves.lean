import Mathlib.Data.List.Basic
import Vitae.Layout.Columns
import Vitae.Layout.Overrides

/-! # A layout is its leaves

A layout is known by the values at its leaves, and a partial layout by those it gives, however they
are grouped. At each leaf the last partial layout that gives a value decides. -/

namespace Vitae

/-- A place in a layout that holds a single value. -/
inductive Leaf where
  | headerStyle
  | showAvatar
  | showTitle
  | skillsStyle
  | skillsPosition
  | experienceStyle
  | experiencePosition
  | educationStyle
  | educationPosition
  | primary
  | secondary
  | accent
  | background
  | text
  | headingFont
  | bodyFont
  | headingSize
  deriving DecidableEq

/-- What a partial layout may leave out as a whole. -/
inductive Group where
  | header
  | sections
  | section (kind : SectionKind)
  | colors
  | typography

def SectionKind.leaves : SectionKind → List Leaf
  | skills => [.skillsStyle, .skillsPosition]
  | experience => [.experienceStyle, .experiencePosition]
  | education => [.educationStyle, .educationPosition]

def Group.leaves : Group → List Leaf
  | header => [.headerStyle, .showAvatar, .showTitle]
  | sections => SectionKind.all.flatMap SectionKind.leaves
  | .section kind => kind.leaves
  | colors => [.primary, .secondary, .accent, .background, .text]
  | typography => [.headingFont, .bodyFont, .headingSize]

def Leaf.Value : Leaf → Type
  | headerStyle => HeaderStyle
  | showAvatar | showTitle => Bool
  | skillsStyle => SkillsStyle
  | experienceStyle => ExperienceStyle
  | educationStyle => EducationStyle
  | skillsPosition | experiencePosition | educationPosition => Position
  | primary | secondary | accent | background | text | headingFont | bodyFont => String
  | headingSize => HeadingSize

def Layout.value (layout : Layout) : (leaf : Leaf) → leaf.Value
  | .headerStyle => layout.header.style
  | .showAvatar => layout.header.showAvatar
  | .showTitle => layout.header.showTitle
  | .skillsStyle => layout.sections.skills.style
  | .skillsPosition => layout.sections.skills.position
  | .experienceStyle => layout.sections.experience.style
  | .experiencePosition => layout.sections.experience.position
  | .educationStyle => layout.sections.education.style
  | .educationPosition => layout.sections.education.position
  | .primary => layout.colors.primary
  | .secondary => layout.colors.secondary
  | .accent => layout.colors.accent
  | .background => layout.colors.background
  | .text => layout.colors.text
  | .headingFont => layout.typography.headingFont
  | .bodyFont => layout.typography.bodyFont
  | .headingSize => layout.typography.headingSize

theorem Layout.ext_value {layout other : Layout}
    (h : ∀ leaf, layout.value leaf = other.value leaf) : layout = other := by
  obtain ⟨⟨_, _, _⟩, ⟨⟨_, _⟩, ⟨_, _⟩, ⟨_, _⟩⟩, ⟨_, _, _, _, _⟩, ⟨_, _, _⟩⟩ := layout
  obtain ⟨⟨_, _, _⟩, ⟨⟨_, _⟩, ⟨_, _⟩, ⟨_, _⟩⟩, ⟨_, _, _, _, _⟩, ⟨_, _, _⟩⟩ := other
  cases h .headerStyle
  cases h .showAvatar
  cases h .showTitle
  cases h .skillsStyle
  cases h .skillsPosition
  cases h .experienceStyle
  cases h .experiencePosition
  cases h .educationStyle
  cases h .educationPosition
  cases h .primary
  cases h .secondary
  cases h .accent
  cases h .background
  cases h .text
  cases h .headingFont
  cases h .bodyFont
  cases h .headingSize
  rfl

namespace LayoutOverrides

def value? (o : LayoutOverrides) : (leaf : Leaf) → Option leaf.Value
  | .headerStyle => o.header.bind (·.style)
  | .showAvatar => o.header.bind (·.showAvatar)
  | .showTitle => o.header.bind (·.showTitle)
  | .skillsStyle => (o.sections.bind (·.skills)).bind (·.style)
  | .skillsPosition => (o.sections.bind (·.skills)).bind (·.position)
  | .experienceStyle => (o.sections.bind (·.experience)).bind (·.style)
  | .experiencePosition => (o.sections.bind (·.experience)).bind (·.position)
  | .educationStyle => (o.sections.bind (·.education)).bind (·.style)
  | .educationPosition => (o.sections.bind (·.education)).bind (·.position)
  | .primary => o.colors.bind (·.primary)
  | .secondary => o.colors.bind (·.secondary)
  | .accent => o.colors.bind (·.accent)
  | .background => o.colors.bind (·.background)
  | .text => o.colors.bind (·.text)
  | .headingFont => o.typography.bind (·.headingFont)
  | .bodyFont => o.typography.bind (·.bodyFont)
  | .headingSize => o.typography.bind (·.headingSize)

/-- The partial layout that gives these values. -/
def ofValues (f : (leaf : Leaf) → Option leaf.Value) : LayoutOverrides where
  header := some ⟨f .headerStyle, f .showAvatar, f .showTitle⟩
  sections := some
    { skills := some ⟨f .skillsStyle, f .skillsPosition⟩
      experience := some ⟨f .experienceStyle, f .experiencePosition⟩
      education := some ⟨f .educationStyle, f .educationPosition⟩ }
  colors := some ⟨f .primary, f .secondary, f .accent, f .background, f .text⟩
  typography := some ⟨f .headingFont, f .bodyFont, f .headingSize⟩

/-- The same with every group written out that is left out, and nothing in it. -/
def filled (o : LayoutOverrides) : LayoutOverrides where
  header := some (o.header.getD {})
  sections :=
    let sections := o.sections.getD {}
    some
      { skills := some (sections.skills.getD {})
        experience := some (sections.experience.getD {})
        education := some (sections.education.getD {}) }
  colors := some (o.colors.getD {})
  typography := some (o.typography.getD {})

/-- What it gives in one group. -/
def only (group : Group) (o : LayoutOverrides) : LayoutOverrides :=
  ofValues fun leaf => if leaf ∈ group.leaves then o.value? leaf else none

/-- `q` where it gives a value, and `o` elsewhere. -/
def followedBy (o q : LayoutOverrides) : LayoutOverrides :=
  ofValues fun leaf => (q.value? leaf).or (o.value? leaf)

theorem value?_ofValues (f : (leaf : Leaf) → Option leaf.Value) (leaf : Leaf) :
    (ofValues f).value? leaf = f leaf := by
  cases leaf <;> rfl

theorem value?_filled (o : LayoutOverrides) (leaf : Leaf) :
    o.filled.value? leaf = o.value? leaf := by
  obtain ⟨header, sections, colors, typography⟩ := o
  cases leaf with
  | headerStyle | showAvatar | showTitle => cases header <;> rfl
  | skillsStyle | skillsPosition => rcases sections with _ | ⟨_ | _, _, _⟩ <;> rfl
  | experienceStyle | experiencePosition => rcases sections with _ | ⟨_, _ | _, _⟩ <;> rfl
  | educationStyle | educationPosition => rcases sections with _ | ⟨_, _, _ | _⟩ <;> rfl
  | primary | secondary | accent | background | text => cases colors <;> rfl
  | headingFont | bodyFont | headingSize => cases typography <;> rfl

end LayoutOverrides

namespace Layout

theorem value_override (layout : Layout) (o : LayoutOverrides) (leaf : Leaf) :
    (layout.override o).value leaf = (o.value? leaf).getD (layout.value leaf) := by
  obtain ⟨header, sections, colors, typography⟩ := o
  cases leaf with
  | headerStyle | showAvatar | showTitle => cases header <;> rfl
  | skillsStyle | skillsPosition => rcases sections with _ | ⟨_ | _, _, _⟩ <;> rfl
  | experienceStyle | experiencePosition => rcases sections with _ | ⟨_, _ | _, _⟩ <;> rfl
  | educationStyle | educationPosition => rcases sections with _ | ⟨_, _, _ | _⟩ <;> rfl
  | primary | secondary | accent | background | text => cases colors <;> rfl
  | headingFont | bodyFont | headingSize => cases typography <;> rfl

/-- Partial layouts act alike if they give the same values. -/
theorem override_congr (layout : Layout) {o q : LayoutOverrides}
    (h : ∀ leaf, o.value? leaf = q.value? leaf) : layout.override o = layout.override q :=
  ext_value fun leaf => by rw [value_override, value_override, h]

theorem value_foldl_override (layout : Layout) (patches : List LayoutOverrides) (leaf : Leaf) :
    (patches.foldl override layout).value leaf =
      (patches.filterMap (·.value? leaf)).getLast?.getD (layout.value leaf) := by
  induction patches generalizing layout with
  | nil => rfl
  | cons o patches ih =>
    rw [List.foldl_cons, ih, value_override, List.filterMap_cons]
    cases o.value? leaf with
    | none => rfl
    | some v => rw [List.getLast?_cons, Option.getD_some, Option.getD_some]

theorem override_override (layout : Layout) (o q : LayoutOverrides) :
    (layout.override o).override q = layout.override (o.followedBy q) := by
  refine ext_value fun leaf => ?_
  rw [value_override, value_override, value_override, LayoutOverrides.followedBy,
    LayoutOverrides.value?_ofValues]
  cases q.value? leaf <;> rfl

/-- At every leaf the last of the partial layouts that gives a value decides. So it does not matter
whether a group is left out or empty, no group reaches into another, and two partial layouts one
after the other are one. -/
theorem override_lastGiven (layout : Layout) :
    (∀ (patches : List LayoutOverrides) (leaf : Leaf),
      (patches.foldl override layout).value leaf =
        (patches.filterMap (·.value? leaf)).getLast?.getD (layout.value leaf)) ∧
    (∀ o, layout.override (LayoutOverrides.filled o) = layout.override o) ∧
    (∀ group o leaf, (layout.override (LayoutOverrides.only group o)).value leaf =
      if leaf ∈ group.leaves then (layout.override o).value leaf else layout.value leaf) ∧
    (∀ o, (layout.override o).override o = layout.override o) ∧
    ∀ o q, (layout.override o).override q = layout.override (o.followedBy q) ∧
      ∀ leaf, (o.followedBy q).value? leaf = (q.value? leaf).or (o.value? leaf) := by
  refine ⟨value_foldl_override layout, fun o => override_congr layout o.value?_filled,
    fun group o leaf => ?_, fun o => ?_, fun o q => ⟨override_override layout o q, fun leaf => ?_⟩⟩
  · rw [value_override, value_override, LayoutOverrides.only, LayoutOverrides.value?_ofValues]
    split <;> rfl
  · rw [override_override]
    refine override_congr layout fun leaf => ?_
    rw [LayoutOverrides.followedBy, LayoutOverrides.value?_ofValues, Option.or_self]
  · rw [LayoutOverrides.followedBy, LayoutOverrides.value?_ofValues]

end Layout

end Vitae

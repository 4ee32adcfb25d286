import Vitae.Layout.Basic

/-! The columns of a page follow from the positions of its sections alone, so every résumé shown
with one template has the same columns. -/

namespace Vitae

inductive SectionKind where
  | skills
  | experience
  | education
  deriving DecidableEq, Repr, Inhabited

namespace SectionKind

/-- In the order in which they are shown. -/
def all : List SectionKind := [skills, experience, education]

def name : SectionKind → String
  | skills => "skills"
  | experience => "experience"
  | education => "education"

def heading : SectionKind → String
  | skills => "Skills"
  | experience => "Experience"
  | education => "Education"

end SectionKind

structure ColumnPlan where
  left : List SectionKind
  right : List SectionKind
  fullWidth : List SectionKind
  deriving DecidableEq, Repr

namespace SectionsLayout

def position (sections : SectionsLayout) : SectionKind → Position
  | .skills => sections.skills.position
  | .experience => sections.experience.position
  | .education => sections.education.position

def placedAt (sections : SectionsLayout) (p : Position) : List SectionKind :=
  SectionKind.all.filter (sections.position · = p)

theorem mem_placedAt {sections : SectionsLayout} {p : Position} {kind : SectionKind} :
    kind ∈ sections.placedAt p ↔ sections.position kind = p := by
  cases kind <;> simp [placedAt, SectionKind.all]

def columns (sections : SectionsLayout) : ColumnPlan :=
  ⟨sections.placedAt .left, sections.placedAt .right, sections.placedAt .fullWidth⟩

end SectionsLayout

namespace ColumnPlan

def hasGrid (plan : ColumnPlan) : Bool := !plan.left.isEmpty || !plan.right.isEmpty

def isTwoColumn (plan : ColumnPlan) : Bool := !plan.left.isEmpty && !plan.right.isEmpty

end ColumnPlan

end Vitae

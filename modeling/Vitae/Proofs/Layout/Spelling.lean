import Vitae.Proofs.Shape.Closed
import Vitae.Proofs.Template.Loading

/-! # Nothing in a partial layout is misspelt

A partial layout is read from an object only if every name in it, at whatever depth, is that of a
group or of a leaf, and every leaf is null or a value of that leaf as it is written. The leaves it
then gives are those that are written and not null. -/

namespace Vitae

/-- What stands in a value at the end of a way of names. -/
def Json.at? (v : Json) (place : List String) : Option Json :=
  place.foldl (fun v? name => v?.bind (·.member? name)) (some v)

/-- What is read at a place, at which nothing need be. -/
def Shape.ReadsAt {α : Type} (shape : Shape α) (v : Json) (place : List String) (x : Option α) :
    Prop :=
  (Field.nullable "").Reads (.optional shape) (v.at? place) x

namespace Leaf

def shape : (leaf : Leaf) → Shape leaf.Value
  | headerStyle => HeaderStyle.shape
  | showAvatar | showTitle => .flag
  | skillsStyle => SkillsStyle.shape
  | experienceStyle => ExperienceStyle.shape
  | educationStyle => EducationStyle.shape
  | skillsPosition | experiencePosition | educationPosition => Position.shape
  | primary | secondary | accent | background | text | headingFont | bodyFont => .text
  | headingSize => HeadingSize.shape

/-- The value of a leaf as it is written. -/
def json : (leaf : Leaf) → leaf.Value → Json
  | headerStyle, style => .str (HeaderStyle.name style)
  | showAvatar, b | showTitle, b => .bool b
  | skillsStyle, style => .str (SkillsStyle.name style)
  | experienceStyle, style => .str (ExperienceStyle.name style)
  | educationStyle, style => .str (EducationStyle.name style)
  | skillsPosition, p | experiencePosition, p | educationPosition, p => .str (Position.name p)
  | primary, s | secondary, s | accent, s | background, s | text, s | headingFont, s
  | bodyFont, s => .str s
  | headingSize, size => .str (HeadingSize.name size)

theorem encode_shape (leaf : Leaf) (x : leaf.Value) : leaf.shape.encode x = leaf.json x := by
  cases leaf <;> rfl

theorem shape_lawful (leaf : Leaf) : leaf.shape.Lawful := by
  cases leaf with
  | headerStyle => exact HeaderStyle.shape_lawful
  | skillsStyle => exact SkillsStyle.shape_lawful
  | experienceStyle => exact ExperienceStyle.shape_lawful
  | educationStyle => exact EducationStyle.shape_lawful
  | skillsPosition | experiencePosition | educationPosition => exact Position.shape_lawful
  | headingSize => exact HeadingSize.shape_lawful
  | _ => trivial

theorem isPlain_shape (leaf : Leaf) : leaf.shape.isPlain = true := by
  cases leaf <;> rfl

end Leaf

namespace LayoutOverrides

/-- The places of the objects in a partial layout, each with the names that may stand in it. -/
def objects : List (List String × List String) :=
  [([], ["header", "sections", "colors", "typography"]),
    (["header"], ["style", "show_avatar", "show_title"]),
    (["sections"], ["skills", "experience", "education"]),
    (["sections", "skills"], ["style", "position"]),
    (["sections", "experience"], ["style", "position"]),
    (["sections", "education"], ["style", "position"]),
    (["colors"], ["primary", "secondary", "accent", "background", "text"]),
    (["typography"], ["heading_font", "body_font", "heading_size"])]

/-- An object in the form of a partial layout: objects where they belong, unless they are null, and
no others at the leaves. -/
structure Formed (v : Json) : Prop where
  whole : v ≠ .null
  objects : ∀ o ∈ objects, ∀ w, v.at? o.1 = some w → w.IsObjectOrNull
  leaves : ∀ (leaf : Leaf) (w : Json), v.at? leaf.place = some w → w.isScalar = true

/-- Every name in the objects of a partial layout is one that may stand there. -/
def NamesKnown (v : Json) : Prop :=
  ∀ o ∈ objects, ∀ members, v.at? o.1 = some (.obj members) → ∀ m ∈ members, m.1 ∈ o.2

/-- Every name is known where it stands, and every leaf is null or a value of it as it is
written. -/
structure Spelled (v : Json) : Prop where
  names : NamesKnown v
  leaves : ∀ (leaf : Leaf) (w : Json), v.at? leaf.place = some w →
    w = .null ∨ ∃ x, w = leaf.json x

variable {v : Json} {o : LayoutOverrides}

theorem readsAt_of_decode (hf : Formed v) (h : shape.decode v = .ok o) :
    NamesKnown v ∧ ∀ leaf : Leaf, leaf.shape.ReadsAt v leaf.place (o.value? leaf) := by
  have hobj := hf.objects
  simp only [objects, List.forall_mem_cons] at hobj
  obtain ⟨hv, hheader, hsections, hskills, hexperience, heducation, hcolors, htypography, -⟩ := hobj
  rcases hv v rfl with rfl | ⟨members, rfl, hd⟩
  · exact absurd rfl hf.whole
  obtain ⟨hnames, ⟨header, sections, colors, typography, _⟩, ⟨h1, h2, h3, h4, -⟩, rfl⟩ :=
    (Shape.decode_closed_iff hd).mp h
  have ⟨n1, l1⟩ := Field.holds_of_reads_closed (fun _ => rfl) rfl hheader h1
  have ⟨n2, l2⟩ := Field.holds_of_reads_closed (fun _ => rfl) rfl hsections h2
  have ⟨n3, l3⟩ := Field.holds_of_reads_closed (fun _ => rfl) rfl hcolors h3
  have ⟨n4, l4⟩ := Field.holds_of_reads_closed (fun _ => rfl) rfl htypography h4
  have ⟨n5, l5⟩ := Field.holds_of_reads_closed (fun _ => rfl) rfl hskills l2.1
  have ⟨n6, l6⟩ := Field.holds_of_reads_closed (fun _ => rfl) rfl hexperience l2.2.1
  have ⟨n7, l7⟩ := Field.holds_of_reads_closed (fun _ => rfl) rfl heducation l2.2.2.1
  refine ⟨?_, fun leaf => ?_⟩
  · simp only [NamesKnown, objects, List.forall_mem_cons]
    exact ⟨fun _ he => by cases he; exact hnames, n1, n2, n5, n6, n7, n3, n4, by nofun⟩
  · rw [← value?_filled]
    cases leaf with
    | headerStyle => exact l1.1
    | showAvatar => exact l1.2.1
    | showTitle => exact l1.2.2.1
    | skillsStyle => exact l5.1
    | skillsPosition => exact l5.2.1
    | experienceStyle => exact l6.1
    | experiencePosition => exact l6.2.1
    | educationStyle => exact l7.1
    | educationPosition => exact l7.2.1
    | primary => exact l3.1
    | secondary => exact l3.2.1
    | accent => exact l3.2.2.1
    | background => exact l3.2.2.2.1
    | text => exact l3.2.2.2.2.1
    | headingFont => exact l4.1
    | bodyFont => exact l4.2.1
    | headingSize => exact l4.2.2.1

theorem exists_decode_of_readsAt (hf : Formed v) (hn : NamesKnown v)
    {f : (leaf : Leaf) → Option leaf.Value}
    (h : ∀ leaf : Leaf, leaf.shape.ReadsAt v leaf.place (f leaf)) :
    ∃ o, shape.decode v = .ok o := by
  have hobj := hf.objects
  simp only [objects, List.forall_mem_cons] at hobj
  simp only [NamesKnown, objects, List.forall_mem_cons] at hn
  obtain ⟨hv, hheader, hsections, hskills, hexperience, heducation, hcolors, htypography, -⟩ := hobj
  obtain ⟨hnames, n1, n2, n5, n6, n7, n3, n4, -⟩ := hn
  obtain ⟨header, h1⟩ : ∃ x, HeaderOverrides.shape.ReadsAt v ["header"] x :=
    Field.exists_reads_closed (b := (f .headerStyle, f .showAvatar, f .showTitle, ())) hheader n1
      ⟨h .headerStyle, h .showAvatar, h .showTitle, trivial⟩
  obtain ⟨skills, h5⟩ : ∃ x, (SectionOverride.shape SkillsStyle.shape).ReadsAt v
      ["sections", "skills"] x :=
    Field.exists_reads_closed (b := (f .skillsStyle, f .skillsPosition, ())) hskills n5
      ⟨h .skillsStyle, h .skillsPosition, trivial⟩
  obtain ⟨experience, h6⟩ : ∃ x, (SectionOverride.shape ExperienceStyle.shape).ReadsAt v
      ["sections", "experience"] x :=
    Field.exists_reads_closed (b := (f .experienceStyle, f .experiencePosition, ())) hexperience n6
      ⟨h .experienceStyle, h .experiencePosition, trivial⟩
  obtain ⟨education, h7⟩ : ∃ x, (SectionOverride.shape EducationStyle.shape).ReadsAt v
      ["sections", "education"] x :=
    Field.exists_reads_closed (b := (f .educationStyle, f .educationPosition, ())) heducation n7
      ⟨h .educationStyle, h .educationPosition, trivial⟩
  obtain ⟨sections, h2⟩ : ∃ x, SectionsOverrides.shape.ReadsAt v ["sections"] x :=
    Field.exists_reads_closed (b := (skills, experience, education, ())) hsections n2
      ⟨h5, h6, h7, trivial⟩
  obtain ⟨colors, h3⟩ : ∃ x, PaletteOverrides.shape.ReadsAt v ["colors"] x :=
    Field.exists_reads_closed
      (b := (f .primary, f .secondary, f .accent, f .background, f .text, ())) hcolors n3
      ⟨h .primary, h .secondary, h .accent, h .background, h .text, trivial⟩
  obtain ⟨typography, h4⟩ : ∃ x, TypographyOverrides.shape.ReadsAt v ["typography"] x :=
    Field.exists_reads_closed (b := (f .headingFont, f .bodyFont, f .headingSize, ())) htypography
      n4 ⟨h .headingFont, h .bodyFont, h .headingSize, trivial⟩
  rcases hv v rfl with rfl | ⟨members, rfl, hd⟩
  · exact absurd rfl hf.whole
  · exact ⟨_, (Shape.decode_closed_iff hd).mpr
      ⟨hnames members rfl, (header, sections, colors, typography, ()), ⟨h1, h2, h3, h4, trivial⟩,
        rfl⟩⟩

end LayoutOverrides

end Vitae

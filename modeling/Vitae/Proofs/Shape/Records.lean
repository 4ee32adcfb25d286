import Vitae.Proofs.Color
import Vitae.Proofs.Shape.Reorder
import Vitae.Proofs.Template.Loading
import Vitae.Resume.Shape

/-! # The records of the library are read back

Every record of the library has a lawful shape, the partial ones included, in which a group that is
there with nothing in it is something else than a group that is left out. -/

namespace Vitae

open Json

/-- Whatever the order of the members in its document, a value is read from it. -/
def Shape.ReadsBack {α : Type} (shape : Shape α) : Prop :=
  ∀ a document, (shape.encode a).Reordered document → shape.decode document = .ok a

theorem Shape.Lawful.readsBack {α : Type} {shape : Shape α} (h : shape.Lawful) :
    shape.ReadsBack :=
  fun a _ hr => Shape.decode_reordered hr (Shape.decode_encode h a)

theorem HexColor.shape_lawful : HexColor.shape.Lawful := by
  intro c
  show (HexColor.parse c.toHex).mapError ColorError.message = .ok c
  rw [parse_toHex]
  rfl

theorem TemplateMeta.shape_lawful : TemplateMeta.shape.Lawful := by
  simp [shape, Shape.Lawful, Fields.Lawful, Fields.names, Field.required, Field.defaulting,
    Shape.isOptional, Category.shape_lawful]

/-! ## Résumés -/

theorem Skill.shape_lawful : Skill.shape.Lawful := by
  simp [shape, Shape.Lawful, Fields.Lawful, Fields.names, Field.defaulting, Shape.isOptional]

theorem Job.shape_lawful : Job.shape.Lawful := by
  simp [shape, Shape.Lawful, Fields.Lawful, Fields.names, Field.defaulting, Shape.isOptional]

theorem Education.shape_lawful : Education.shape.Lawful := by
  simp [shape, Shape.Lawful, Fields.Lawful, Fields.names, Field.defaulting, Shape.isOptional]

theorem Resume.shape_lawful : Resume.shape.Lawful := by
  simp [shape, Shape.Lawful, Fields.Lawful, Fields.names, Field.defaulting, Shape.isOptional,
    Skill.shape_lawful, Job.shape_lawful, Education.shape_lawful]

/-! ## Partial layouts

What is left out is written as nothing, which is no value of a shape that is not itself optional. -/

theorem Fields.Lawful.nullable {α β : Type} {name : String} {shape : Shape α} {rest : Fields β}
    (hs : shape.Lawful) (ho : shape.isOptional = false) (hrest : rest.Lawful) :
    (Fields.cons (.nullable name) (.optional shape) rest).Lawful :=
  ⟨⟨hs, ho⟩, hrest, nofun⟩

theorem HeaderOverrides.shape_lawful : HeaderOverrides.shape.Lawful :=
  ⟨.nullable HeaderStyle.shape_lawful rfl <| .nullable trivial rfl <|
    .nullable trivial rfl trivial, by decide, fun _ => rfl⟩

theorem SectionOverride.shape_lawful {σ : Type} {style : Shape σ} (hs : style.Lawful)
    (ho : style.isOptional = false) : (SectionOverride.shape style).Lawful :=
  ⟨.nullable hs ho <| .nullable Position.shape_lawful rfl trivial,
    by simp [Fields.names, Field.nullable], fun _ => rfl⟩

theorem SectionsOverrides.shape_lawful : SectionsOverrides.shape.Lawful :=
  ⟨.nullable (SectionOverride.shape_lawful SkillsStyle.shape_lawful rfl) rfl <|
    .nullable (SectionOverride.shape_lawful ExperienceStyle.shape_lawful rfl) rfl <|
    .nullable (SectionOverride.shape_lawful EducationStyle.shape_lawful rfl) rfl trivial,
    by decide, fun _ => rfl⟩

theorem PaletteOverrides.shape_lawful : PaletteOverrides.shape.Lawful :=
  ⟨.nullable trivial rfl <| .nullable trivial rfl <| .nullable trivial rfl <|
    .nullable trivial rfl <| .nullable trivial rfl trivial, by decide, fun _ => rfl⟩

theorem TypographyOverrides.shape_lawful : TypographyOverrides.shape.Lawful :=
  ⟨.nullable trivial rfl <| .nullable trivial rfl <|
    .nullable HeadingSize.shape_lawful rfl trivial, by decide, fun _ => rfl⟩

theorem LayoutOverrides.shape_lawful : LayoutOverrides.shape.Lawful :=
  ⟨.nullable HeaderOverrides.shape_lawful rfl <| .nullable SectionsOverrides.shape_lawful rfl <|
    .nullable PaletteOverrides.shape_lawful rfl <|
    .nullable TypographyOverrides.shape_lawful rfl trivial, by decide, fun _ => rfl⟩

theorem CustomSpec.shape_lawful : CustomSpec.shape.Lawful := by
  simp [shape, Shape.Lawful, Fields.Lawful, Fields.names, Field.required, Field.defaulting,
    Category.shape_lawful, LayoutOverrides.shape_lawful]

namespace Shape

/-- Whatever is given and whatever is left open in a value, it is read back as it was written. -/
theorem records_read_back :
    Template.shape.ReadsBack ∧ TemplateMeta.shape.ReadsBack ∧ Resume.shape.ReadsBack ∧
    Skill.shape.ReadsBack ∧ Job.shape.ReadsBack ∧ Education.shape.ReadsBack ∧
    LayoutOverrides.shape.ReadsBack ∧ CustomSpec.shape.ReadsBack ∧ HexColor.shape.ReadsBack :=
  ⟨Template.shape_lawful.readsBack, TemplateMeta.shape_lawful.readsBack,
    Resume.shape_lawful.readsBack, Skill.shape_lawful.readsBack, Job.shape_lawful.readsBack,
    Education.shape_lawful.readsBack, LayoutOverrides.shape_lawful.readsBack,
    CustomSpec.shape_lawful.readsBack, HexColor.shape_lawful.readsBack⟩

/-- An empty group stays apart from the groups left out, also when they come first. -/
theorem records_read_back_empty_header :
    LayoutOverrides.shape.decode (.obj [("sections", .null), ("header", .obj [("style", .null),
      ("show_avatar", .null), ("show_title", .null)]), ("colors", .null),
      ("typography", .null)]) = .ok { header := some {} } :=
  records_read_back.2.2.2.2.2.2.1 { header := some {} } _ (.swap (by decide))

end Shape

end Vitae

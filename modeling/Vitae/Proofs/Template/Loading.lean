import Vitae.Load
import Vitae.Proofs.Layout.Leaves
import Vitae.Proofs.Shape.Partial
import Vitae.Proofs.Shape.Tables

/-! # A template is read as a template of one's own

The document of a template says all that a specification for it has to say, under the same names.
Whatever leaves of its layout are taken out of it, the others are read, and those that are gone are
neutral. -/

namespace Vitae

open Json

theorem Category.shape_lawful : Category.shape.Lawful := by
  intro a
  cases a <;> rfl

theorem HeaderStyle.shape_lawful : HeaderStyle.shape.Lawful := by
  intro a
  cases a <;> rfl

theorem SkillsStyle.shape_lawful : SkillsStyle.shape.Lawful := by
  intro a
  cases a <;> rfl

theorem ExperienceStyle.shape_lawful : ExperienceStyle.shape.Lawful := by
  intro a
  cases a <;> rfl

theorem EducationStyle.shape_lawful : EducationStyle.shape.Lawful := by
  intro a
  cases a <;> rfl

theorem Position.shape_lawful : Position.shape.Lawful := by
  intro a
  cases a <;> rfl

theorem HeadingSize.shape_lawful : HeadingSize.shape.Lawful := by
  intro a
  cases a <;> rfl

theorem HeaderLayout.shape_lawful : HeaderLayout.shape.Lawful := by
  simp [shape, Shape.Lawful, Fields.Lawful, Fields.names, Field.required,
    HeaderStyle.shape_lawful]

theorem SectionLayout.shape_lawful {σ : Type} {style : Shape σ} (h : style.Lawful) :
    (shape style).Lawful := by
  simp [shape, Shape.Lawful, Fields.Lawful, Fields.names, Field.required, h,
    Position.shape_lawful]

theorem SectionsLayout.shape_lawful : SectionsLayout.shape.Lawful := by
  simp [shape, Shape.Lawful, Fields.Lawful, Fields.names, Field.required,
    SectionLayout.shape_lawful, SkillsStyle.shape_lawful, ExperienceStyle.shape_lawful,
    EducationStyle.shape_lawful]

theorem Palette.shape_lawful : Palette.shape.Lawful := by
  simp [shape, Shape.Lawful, Fields.Lawful, Fields.names, Field.required]

theorem Typography.shape_lawful : Typography.shape.Lawful := by
  simp [shape, Shape.Lawful, Fields.Lawful, Fields.names, Field.required,
    HeadingSize.shape_lawful]

theorem Layout.shape_lawful : Layout.shape.Lawful := by
  simp [shape, Shape.Lawful, Fields.Lawful, Fields.names, Field.required,
    HeaderLayout.shape_lawful, SectionsLayout.shape_lawful, Palette.shape_lawful,
    Typography.shape_lawful]

theorem Template.shape_lawful : Template.shape.Lawful := by
  simp [shape, Shape.Lawful, Fields.Lawful, Fields.names, Field.required,
    Category.shape_lawful, Layout.shape_lawful]

/-- The names on the way from a layout to one of its leaves. -/
def Leaf.place : Leaf → List String
  | headerStyle => ["header", "style"]
  | showAvatar => ["header", "show_avatar"]
  | showTitle => ["header", "show_title"]
  | skillsStyle => ["sections", "skills", "style"]
  | skillsPosition => ["sections", "skills", "position"]
  | experienceStyle => ["sections", "experience", "style"]
  | experiencePosition => ["sections", "experience", "position"]
  | educationStyle => ["sections", "education", "style"]
  | educationPosition => ["sections", "education", "position"]
  | primary => ["colors", "primary"]
  | secondary => ["colors", "secondary"]
  | accent => ["colors", "accent"]
  | background => ["colors", "background"]
  | text => ["colors", "text"]
  | headingFont => ["typography", "heading_font"]
  | bodyFont => ["typography", "body_font"]
  | headingSize => ["typography", "heading_size"]

/-- The names on the way from a template to a leaf of its layout. -/
def Leaf.path (leaf : Leaf) : List String := "layout" :: leaf.place

theorem Leaf.path_injective : Function.Injective Leaf.path := by
  intro leaf other h
  cases leaf <;> cases other <;> first | rfl | simp [path, place] at h

namespace Layout

variable (gone cleared : List String → Bool)

theorem exists_reads_header (h : HeaderLayout) :
    ∃ o : Option HeaderOverrides, (Field.nullable "header").Reads
      (.optional HeaderOverrides.shape) ((HeaderLayout.shape.encode h).prune gone cleared) o ∧
      o.getD {} = ⟨if gone ["style"] then none else some h.style,
        if gone ["show_avatar"] then none else some h.showAvatar,
        if gone ["show_title"] then none else some h.showTitle⟩ :=
  Shape.exists_reads_without HeaderLayout.shape_lawful
    (by simp [Fields.AreLeaves, HeaderStyle.shape, Shape.isLeaf, Field.required]) rfl "header" h

theorem exists_reads_section {σ : Type} {style : Shape σ} (hl : style.Lawful)
    (hs : style.isLeaf = true) (name : String) (s : SectionLayout σ) :
    ∃ o : Option (SectionOverride σ), (Field.nullable name).Reads
      (.optional (SectionOverride.shape style))
      (((SectionLayout.shape style).encode s).prune gone cleared) o ∧
      o.getD {} = ⟨if gone ["style"] then none else some s.style,
        if gone ["position"] then none else some s.position⟩ :=
  have hp : Position.shape.isLeaf = true := rfl
  Shape.exists_reads_without (SectionLayout.shape_lawful hl)
    (by simp [Fields.AreLeaves, Field.required, hs, hp]) rfl name s

theorem exists_reads_colors (p : Palette) :
    ∃ o : Option PaletteOverrides, (Field.nullable "colors").Reads
      (.optional PaletteOverrides.shape) ((Palette.shape.encode p).prune gone cleared) o ∧
      o.getD {} = ⟨if gone ["primary"] then none else some p.primary,
        if gone ["secondary"] then none else some p.secondary,
        if gone ["accent"] then none else some p.accent,
        if gone ["background"] then none else some p.background,
        if gone ["text"] then none else some p.text⟩ :=
  Shape.exists_reads_without Palette.shape_lawful
    (by simp [Fields.AreLeaves, Shape.isLeaf, Field.required]) rfl "colors" p

theorem exists_reads_typography (t : Typography) :
    ∃ o : Option TypographyOverrides, (Field.nullable "typography").Reads
      (.optional TypographyOverrides.shape)
      ((Typography.shape.encode t).prune gone cleared) o ∧
      o.getD {} = ⟨if gone ["heading_font"] then none else some t.headingFont,
        if gone ["body_font"] then none else some t.bodyFont,
        if gone ["heading_size"] then none else some t.headingSize⟩ :=
  Shape.exists_reads_without Typography.shape_lawful
    (by simp [Fields.AreLeaves, HeadingSize.shape, Shape.isLeaf, Field.required]) rfl
    "typography" t

theorem exists_reads_sections (s : SectionsLayout) :
    ∃ o : Option SectionsOverrides, (Field.nullable "sections").Reads
      (.optional SectionsOverrides.shape)
      ((SectionsLayout.shape.encode s).prune gone cleared) o ∧
      (o.getD {}).skills.getD {} =
        ⟨if gone ["skills", "style"] then none else some s.skills.style,
          if gone ["skills", "position"] then none else some s.skills.position⟩ ∧
      (o.getD {}).experience.getD {} =
        ⟨if gone ["experience", "style"] then none else some s.experience.style,
          if gone ["experience", "position"] then none else some s.experience.position⟩ ∧
      (o.getD {}).education.getD {} =
        ⟨if gone ["education", "style"] then none else some s.education.style,
          if gone ["education", "position"] then none else some s.education.position⟩ := by
  obtain ⟨skills, hskills, hs⟩ := exists_reads_section (gone <| "skills" :: ·)
    (cleared <| "skills" :: ·) SkillsStyle.shape_lawful rfl "skills" s.skills
  obtain ⟨experience, hexperience, hx⟩ := exists_reads_section (gone <| "experience" :: ·)
    (cleared <| "experience" :: ·) ExperienceStyle.shape_lawful rfl "experience" s.experience
  obtain ⟨education, heducation, he⟩ := exists_reads_section (gone <| "education" :: ·)
    (cleared <| "education" :: ·) EducationStyle.shape_lawful rfl "education" s.education
  obtain ⟨o, ho, hparts⟩ : ∃ o : Option SectionsOverrides,
      (Field.nullable "sections").Reads (.optional SectionsOverrides.shape)
        ((SectionsLayout.shape.encode s).prune gone cleared) o ∧
      o.getD {} = ⟨skills, experience, education⟩ := by
    refine Shape.exists_reads_of_keeps SectionsLayout.shape_lawful rfl "sections" ?_ (a := s)
      (c := (skills, experience, education, ()))
    exact .cons rfl rfl hskills (.cons rfl rfl hexperience (.cons rfl rfl heducation .nil))
  refine ⟨o, ho, ?_⟩
  rw [hparts]
  exact ⟨hs, hx, he⟩

/-- What is left of a layout is read as the partial layout of the leaves that are left. -/
theorem exists_reads_layout (layout : Layout) :
    ∃ o : LayoutOverrides, (Field.defaulting "layout" {}).Reads LayoutOverrides.shape
      ((Layout.shape.encode layout).prune gone cleared) o ∧
      ∀ leaf, o.value? leaf = if gone leaf.place then none else some (layout.value leaf) := by
  obtain ⟨header, hheader, hh⟩ := exists_reads_header (gone <| "header" :: ·)
    (cleared <| "header" :: ·) layout.header
  obtain ⟨sections, hsections, hs, hx, he⟩ := exists_reads_sections (gone <| "sections" :: ·)
    (cleared <| "sections" :: ·) layout.sections
  obtain ⟨colors, hcolors, hc⟩ := exists_reads_colors (gone <| "colors" :: ·)
    (cleared <| "colors" :: ·) layout.colors
  obtain ⟨typography, htypography, ht⟩ := exists_reads_typography (gone <| "typography" :: ·)
    (cleared <| "typography" :: ·) layout.typography
  refine ⟨⟨header, sections, colors, typography⟩, ?_, fun leaf => ?_⟩
  · refine Shape.reads_of_keeps Layout.shape_lawful rfl "layout" ?_ (a := layout)
      (c := (header, sections, colors, typography, ()))
    exact .cons rfl rfl hheader (.cons rfl rfl hsections (.cons rfl rfl hcolors
      (.cons rfl rfl htypography .nil)))
  · -- A group that is gone gives no more than an empty one, so all groups may be filled in.
    rw [← LayoutOverrides.value?_filled, LayoutOverrides.filled]
    simp only [hh, hs, hx, he, hc, ht]
    cases leaf <;> rfl

end Layout

namespace CustomSpec

theorem shape_closed : CustomSpec.shape.Closed := by
  simp [shape, LayoutOverrides.shape, HeaderOverrides.shape, SectionsOverrides.shape,
    SectionOverride.shape, PaletteOverrides.shape, TypographyOverrides.shape, Category.shape,
    HeaderStyle.shape, SkillsStyle.shape, ExperienceStyle.shape, EducationStyle.shape,
    Position.shape, HeadingSize.shape, Shape.Closed, Fields.Closed]

theorem load_of_spells {document : Json} {spec : CustomSpec}
    (h : CustomSpec.shape.decode document = .ok spec) {text : String} {tree : Toml}
    (hparse : Toml.parse? text = some tree) (hspells : tree.Spells document) :
    CustomSpec.load (.ok text) = .ok spec := by
  rw [load, Shape.loadToml, Shape.ofTomlText_of_spells shape_closed h hparse hspells]
  rfl

end CustomSpec

namespace Template

/-- The same template but for these leaves of its layout, which are neutral. -/
structure NeutralAt (dropped : List Leaf) (t u : Template) : Prop where
  key : u.key = t.key
  name : u.name = t.name
  description : u.description = t.description
  category : u.category = t.category
  value : ∀ leaf, u.layout.value leaf =
    if leaf ∈ dropped then Layout.neutral.value leaf else t.layout.value leaf

theorem NeutralAt.eq {t u : Template} (h : NeutralAt [] t u) : u = t := by
  have hlayout : u.layout = t.layout := Layout.ext_value fun leaf => by
    rw [h.value, if_neg List.not_mem_nil]
  obtain ⟨key, name, description, category, layout⟩ := u
  obtain ⟨rfl, rfl, rfl, rfl, -⟩ := h
  cases hlayout
  rfl

theorem exists_spec_of_kept (gone cleared : List String → Bool) (t : Template)
    (hkey : gone ["key"] = false) (hname : gone ["name"] = false)
    (hdescription : gone ["description"] = false) (hcategory : gone ["category"] = false) :
    ∃ document layout, (Template.shape.encode t).prune gone cleared = some document ∧
      CustomSpec.shape.decode document =
        .ok ⟨t.key, t.name, t.description, t.category, layout⟩ ∧
      ∀ leaf, layout.value? leaf = if gone leaf.path then none else some (t.layout.value leaf) := by
  obtain ⟨layout, hlayout, hvalues⟩ := Layout.exists_reads_layout (gone <| "layout" :: ·)
    (cleared <| "layout" :: ·) t.layout
  obtain ⟨document, hdocument, hdecode⟩ : ∃ document,
      (Template.shape.encode t).prune gone cleared = some document ∧
      CustomSpec.shape.decode document =
        .ok ⟨t.key, t.name, t.description, t.category, layout⟩ := by
    have htext : Shape.text.Lawful := trivial
    -- The key alone keeps the whole object from going.
    refine Shape.exists_prune_of_keeps Template.shape_lawful (by nofun) ?_ (a := t)
      (c := (t.key, t.name, t.description, t.category, layout, ()))
    exact .cons rfl rfl (Field.reads_kept _ htext rfl hkey t.key) <|
      .cons rfl rfl (Field.reads_kept _ htext rfl hname t.name) <|
      .cons rfl rfl (Field.reads_kept _ htext rfl hdescription t.description) <|
      .cons rfl rfl (Field.reads_kept _ Category.shape_lawful rfl hcategory t.category) <|
      .cons rfl rfl hlayout .nil
  exact ⟨document, layout, hdocument, hdecode, hvalues⟩

theorem exists_spec_neutralAt (t : Template) (dropped : List Leaf)
    (cleared : List String → Bool) : ∃ document spec,
      (Template.shape.encode t).prune (dropped.map Leaf.path).contains cleared = some document ∧
      CustomSpec.shape.decode document = .ok spec ∧ t.NeutralAt dropped spec.template := by
  have hout (name : String) (h : name ≠ "layout") :
      (dropped.map Leaf.path).contains [name] = false := by
    simp [Leaf.path, h.symm]
  have hmem (leaf : Leaf) :
      (dropped.map Leaf.path).contains leaf.path = true ↔ leaf ∈ dropped := by
    rw [List.contains_iff_mem, List.mem_map_of_injective Leaf.path_injective]
  obtain ⟨document, layout, hdocument, hdecode, hvalues⟩ :=
    t.exists_spec_of_kept (dropped.map Leaf.path).contains cleared (hout _ (by decide))
      (hout _ (by decide)) (hout _ (by decide)) (hout _ (by decide))
  refine ⟨document, _, hdocument, hdecode, rfl, rfl, rfl, rfl, fun leaf => ?_⟩
  rw [CustomSpec.template, Layout.value_override, hvalues]
  by_cases hleaf : leaf ∈ dropped
  · rw [if_pos ((hmem leaf).mpr hleaf), if_pos hleaf, Option.getD_none]
  · rw [if_neg (mt (hmem leaf).mp hleaf), if_neg hleaf, Option.getD_some]

/-- The document of a template is read as the template, and as a template of one's own it is the same.
Whatever leaves of the layout are taken out of it, and whichever objects go that have nothing left in
them, it is read as a template of one's own that is the same but for these leaves, which are neutral;
so is every TOML text that spells it. -/
theorem decode_encode_without (t : Template) :
    Template.shape.decode (Template.shape.encode t) = .ok t ∧
    (CustomSpec.shape.decode (Template.shape.encode t)).map CustomSpec.template = .ok t ∧
    ∀ (dropped : List Leaf) (cleared : List String → Bool), ∃ document spec,
      (Template.shape.encode t).prune (dropped.map Leaf.path).contains cleared = some document ∧
      CustomSpec.shape.decode document = .ok spec ∧
      (∀ text tree, Toml.parse? text = some tree → tree.Spells document →
        CustomSpec.load (.ok text) = .ok spec) ∧
      t.NeutralAt dropped spec.template := by
  refine ⟨Shape.decode_encode Template.shape_lawful t, ?_, fun dropped cleared => ?_⟩
  · obtain ⟨document, spec, hdocument, hdecode, hspec⟩ :=
      t.exists_spec_neutralAt [] fun _ => false
    have hwhole : Template.shape.encode t = document :=
      Option.some.inj ((Json.prune_nothing _).symm.trans hdocument)
    rw [hwhole, hdecode, Except.map, hspec.eq]
  · obtain ⟨document, spec, hdocument, hdecode, hspec⟩ := t.exists_spec_neutralAt dropped cleared
    exact ⟨document, spec, hdocument, hdecode,
      fun text tree hparse hs => CustomSpec.load_of_spells hdecode hparse hs, hspec⟩

/-- A template of which nothing but the primary color is left, and a tree that spells what is left. -/
theorem decode_encode_without_all_but_primary :
    let t : Template := ⟨"k", "N", "", .modern,
      { Layout.neutral with colors := ⟨"red", "", "", "", ""⟩ }⟩
    let dropped := Group.header.leaves ++ Group.sections.leaves ++ Group.typography.leaves ++
      [.secondary, .accent, .background, .text]
    let left : Json := .obj [("key", .str "k"), ("name", .str "N"), ("description", .str ""),
      ("category", .str "modern"), ("layout", .obj [("colors", .obj [("primary", .str "red")])])]
    let tree : Toml := .table ⟨0, 57⟩ .header
      [(⟨"key", ⟨0, 3⟩⟩, .scalar ⟨6, 9⟩ (.string "k")),
        (⟨"name", ⟨10, 14⟩⟩, .scalar ⟨17, 20⟩ (.string "N")),
        (⟨"description", ⟨21, 32⟩⟩, .scalar ⟨35, 37⟩ (.string "")),
        (⟨"category", ⟨38, 46⟩⟩, .scalar ⟨49, 57⟩ (.string "modern")),
        (⟨"layout", ⟨59, 65⟩⟩, .table ⟨59, 65⟩ .onTheWay
          [(⟨"colors", ⟨66, 72⟩⟩, .table ⟨58, 89⟩ .header
            [(⟨"primary", ⟨74, 81⟩⟩, .scalar ⟨84, 89⟩ (.string "red"))])])]
    tree.Spells left ∧
      ∃ spec, CustomSpec.shape.decode left = .ok spec ∧ t.NeutralAt dropped spec.template := by
  intro t dropped left tree
  have hspells : tree.Spells left := by
    refine .entry .string (.entry .string (.entry .string (.entry .string (.entry ?_ .empty))))
    exact .entry (.entry .string .empty) .empty
  obtain ⟨document, spec, hdocument, hdecode, -, hspec⟩ :=
    t.decode_encode_without.2.2 dropped fun _ => true
  have hleft : (Template.shape.encode t).prune (dropped.map Leaf.path).contains (fun _ => true) =
      some left := rfl
  obtain rfl : document = left := Option.some.inj (hdocument.symm.trans hleft)
  exact ⟨hspells, spec, hdecode, hspec⟩

end Template

end Vitae

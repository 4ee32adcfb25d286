import Mathlib.Data.List.Nodup
import Vitae.Markup.Class
import Vitae.Proofs.Text.Word

/-! # Names and vocabulary of classes

Classes differ by name under every prefix. A vocabulary lists no class twice: it is the list of all
classes with those left out that the layout has no use for. -/

namespace Vitae.Class

open Text (IsWord)

/-! ## Names -/

theorem nodup_all : all.Nodup := by decide

theorem baseName_injective {c d : Class} (h : c.baseName = d.baseName) : c = d := by
  have hn : (all.map baseName).Nodup := by decide +kernel
  exact List.inj_on_of_nodup_map hn (mem_all c) (mem_all d) h

theorem token_injective {p : String} {c d : Class} (h : c.token p = d.token p) : c = d := by
  have hl := congrArg String.toList h
  simp only [token, String.toList_append] at hl
  exact baseName_injective (String.toList_injective (List.append_cancel_left hl))

theorem isWord_baseName (c : Class) : IsWord c.baseName := by
  have h : ∀ c ∈ all, IsWord c.baseName := by decide +kernel
  exact h c (mem_all c)

theorem isWord_token {p : String} (hp : IsWord p) (c : Class) : IsWord (c.token p) :=
  hp.append c.isWord_baseName

/-! ## Vocabularies -/

/-- Whether the layout has a use for the class. -/
def UsedBy (layout : Layout) : Class → Prop
  | headerVariant style => style = layout.header.style
  | avatar | avatarInitials => layout.header.showAvatar = true
  | title => layout.header.showTitle = true
  | grid | column => layout.sections.columns.hasGrid = true
  | gridSingle =>
    layout.sections.columns.hasGrid = true ∧ layout.sections.columns.isTwoColumn = false
  | columnSide .left => layout.sections.columns.left ≠ []
  | columnSide .right => layout.sections.columns.right ≠ []
  | fullWidth => layout.sections.columns.fullWidth ≠ []
  | skillsVariant style | skillVariant style => style = layout.sections.skills.style
  | skillLabel | skillTrack | skillFill => layout.sections.skills.style = .bars
  | experienceListVariant style | experienceVariant style =>
    style = layout.sections.experience.style
  | experienceMarker => layout.sections.experience.style = .timeline
  | jobLocation => layout.sections.experience.style = .detailed
  | educationListVariant style | educationVariant style => style = layout.sections.education.style
  | _ => True

theorem mem_onlyIf {b : Bool} {cs : List Class} {c : Class} :
    c ∈ onlyIf b cs ↔ b = true ∧ c ∈ cs := by
  cases b <;> simp [onlyIf]

theorem hasGrid_of_left {plan : ColumnPlan} (h : plan.left ≠ []) : plan.hasGrid = true := by
  simp [ColumnPlan.hasGrid, h]

theorem hasGrid_of_right {plan : ColumnPlan} (h : plan.right ≠ []) : plan.hasGrid = true := by
  simp [ColumnPlan.hasGrid, h]

theorem mem_vocabulary_iff {layout : Layout} {c : Class} :
    c ∈ vocabulary layout ↔ c.UsedBy layout := by
  cases c with
  | columnSide side =>
    cases side with
    | left =>
      rw [UsedBy, ← and_iff_right_of_imp hasGrid_of_left]
      simp [vocabulary, mem_onlyIf]
    | right =>
      rw [UsedBy, ← and_iff_right_of_imp hasGrid_of_right]
      simp [vocabulary, mem_onlyIf]
  | sectionVariant kind => cases kind <;> simp [vocabulary, mem_onlyIf, UsedBy, SectionKind.all]
  | _ => simp [vocabulary, mem_onlyIf, UsedBy, SectionKind.all]

theorem onlyIf_sublist {b : Bool} {cs ds : List Class} (h : cs.Sublist ds) :
    (onlyIf b cs).Sublist ds := by
  cases b with
  | false => exact List.nil_sublist ds
  | true => exact h

/-- A vocabulary keeps the order in which all classes are listed. -/
theorem vocabulary_sublist_all (layout : Layout) : (vocabulary layout).Sublist all := by
  have hall : all = [resume, header] ++ HeaderStyle.all.map headerVariant ++
      [avatar, avatarInitials] ++ [identity, name] ++ [title] ++
      [contact, contactItem, summary, content] ++
      ([grid] ++ [gridSingle] ++ [column] ++ [columnSide .left] ++ [columnSide .right]) ++
      [fullWidth] ++ [.section] ++ SectionKind.all.map sectionVariant ++ [sectionTitle] ++
      ([skills] ++ SkillsStyle.all.map skillsVariant ++ [skill] ++
        SkillsStyle.all.map skillVariant) ++
      [skillLabel, skillTrack, skillFill] ++
      ([experienceList] ++ ExperienceStyle.all.map experienceListVariant ++ [experience] ++
        ExperienceStyle.all.map experienceVariant) ++
      [experienceMarker] ++ [experienceHeader, jobTitle, company, duration] ++ [jobLocation] ++
      [responsibilities, responsibility] ++
      ([educationList] ++ EducationStyle.all.map educationListVariant ++ [education] ++
        EducationStyle.all.map educationVariant ++ [degree, institution, year]) := rfl
  have hheader : [resume, header, headerVariant layout.header.style].Sublist
      ([resume, header] ++ HeaderStyle.all.map headerVariant) := by
    cases layout.header.style <;> decide
  have hskills (style : SkillsStyle) :
      [skills, skillsVariant style, skill, skillVariant style].Sublist
        ([skills] ++ SkillsStyle.all.map skillsVariant ++ [skill] ++
          SkillsStyle.all.map skillVariant) := by
    cases style <;> decide
  have hexperience (style : ExperienceStyle) :
      [experienceList, experienceListVariant style, experience, experienceVariant style].Sublist
        ([experienceList] ++ ExperienceStyle.all.map experienceListVariant ++ [experience] ++
          ExperienceStyle.all.map experienceVariant) := by
    cases style <;> decide
  have heducation (style : EducationStyle) :
      [educationList, educationListVariant style, education, educationVariant style, degree,
        institution, year].Sublist
        ([educationList] ++ EducationStyle.all.map educationListVariant ++ [education] ++
          EducationStyle.all.map educationVariant ++ [degree, institution, year]) := by
    cases style <;> decide
  have hgrid (single left right : Bool) :
      ([grid] ++ onlyIf single [gridSingle] ++ [column] ++ onlyIf left [columnSide .left] ++
        onlyIf right [columnSide .right]).Sublist
        ([grid] ++ [gridSingle] ++ [column] ++ [columnSide .left] ++ [columnSide .right]) := by
    cases single <;> cases left <;> cases right <;> decide
  rw [hall, vocabulary]
  iterate 17 refine List.Sublist.append ?_ ?_
  exacts [hheader, onlyIf_sublist (.refl _), .refl _, onlyIf_sublist (.refl _), .refl _,
    onlyIf_sublist (hgrid ..), onlyIf_sublist (.refl _), .refl _, .refl _, .refl _, hskills _,
    onlyIf_sublist (.refl _), hexperience _, onlyIf_sublist (.refl _), .refl _,
    onlyIf_sublist (.refl _), .refl _, heducation _]

theorem nodup_vocabulary (layout : Layout) : (vocabulary layout).Nodup :=
  nodup_all.sublist (vocabulary_sublist_all layout)

end Vitae.Class

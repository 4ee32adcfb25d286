import Mathlib.Data.List.Forall2
import Vitae.Fragment
import Vitae.Template.Custom

/-! # The structure of a fragment

Two résumés with the same things to show get fragments of one structure: what they say decides texts
and the values of a few attributes, and no more. -/

namespace Vitae

namespace Node

/-- The attributes whose values come from a résumé. -/
def openAttributes : List String := ["src", "alt", "data-level", "style"]

def AttributeAlike (a b : String × String) : Prop :=
  a.1 = b.1 ∧ (a.2 = b.2 ∨ a.1 ∈ openAttributes)

/-- The same tags, classes and attributes in the same places, whatever the texts. -/
inductive Alike : Node → Node → Prop
  | text (s t : String) : Alike (text s) (text t)
  | element (tag : Tag) (classes : List Class) {as bs : List (String × String)} {ns ms : List Node}
      (attributes : List.Forall₂ AttributeAlike as bs) (children : List.Forall₂ Alike ns ms) :
      Alike (element tag classes as ns) (element tag classes bs ms)

theorem attributeAlike_open {name : String} (h : name ∈ openAttributes) (v w : String) :
    AttributeAlike (name, v) (name, w) := ⟨rfl, .inr h⟩

end Node

/-! ## Shapes of résumés -/

/-- Left out, or with nothing but white space in it. -/
def Text.isMissing (field : Option String) : Bool := field.all isBlank

structure Job.SameShape (a b : Job) : Prop where
  startDate : Text.isMissing a.startDate = Text.isMissing b.startDate
  location : Text.isMissing a.location = Text.isMissing b.location
  responsibilities : a.responsibilities.countP (!Text.isBlank ·) =
    b.responsibilities.countP (!Text.isBlank ·)

structure Education.SameShape (a b : Education) : Prop where
  year : Text.isMissing a.year = Text.isMissing b.year

/-- Equally many entries, and the same fields filled. -/
structure Resume.SameShape (r q : Resume) : Prop where
  title : Text.isMissing r.title = Text.isMissing q.title
  email : Text.isMissing r.email = Text.isMissing q.email
  phone : Text.isMissing r.phone = Text.isMissing q.phone
  location : Text.isMissing r.location = Text.isMissing q.location
  website : Text.isMissing r.website = Text.isMissing q.website
  avatar : Text.isMissing r.avatar = Text.isMissing q.avatar
  summary : Text.isMissing r.summary = Text.isMissing q.summary
  skills : r.skills.length = q.skills.length
  jobs : List.Forall₂ Job.SameShape r.jobs q.jobs
  educations : List.Forall₂ Education.SameShape r.educations q.educations

theorem Text.length_toList_nonBlank (field : Option String) :
    (nonBlank field).toList.length = if isMissing field then 0 else 1 := by
  cases field with
  | none => rfl
  | some s =>
    rw [nonBlank, Option.filter_some, isMissing, Option.all_some]
    cases isBlank s <;> rfl

theorem Resume.SameShape.length_contactItems {r q : Resume} (h : r.SameShape q) :
    r.contactItems.length = q.contactItems.length := by
  simp only [contactItems, List.filterMap_eq_flatMap_toList, List.length_flatMap, List.map_cons,
    List.map_nil, Text.length_toList_nonBlank, h.email, h.phone, h.location, h.website]

theorem Job.SameShape.length_duration {a b : Job} (h : a.SameShape b) :
    a.duration.toList.length = b.duration.toList.length := by
  simp only [duration, Option.toList_map, List.length_map, Text.length_toList_nonBlank, h.startDate]

namespace Fragment

open Node (Alike element attributeAlike_open)

/-! ## Labels -/

theorem alike_labelled (tag : Tag) (c : Class) (s t : String) :
    (labelled tag c s).Alike (labelled tag c t) :=
  .element tag [c] .nil (.cons (.text s t) .nil)

theorem alike_map_labelled (tag : Tag) (c : Class) {ss ts : List String}
    (h : ss.length = ts.length) :
    List.Forall₂ Alike (ss.map (labelled tag c)) (ts.map (labelled tag c)) := by
  rw [List.forall₂_map_left_iff, List.forall₂_map_right_iff, List.forall₂_iff_get]
  exact ⟨h, fun _ _ _ => alike_labelled ..⟩

theorem alike_labelled? (tag : Tag) (c : Class) {a b : Option String}
    (h : Text.isMissing a = Text.isMissing b) :
    List.Forall₂ Alike (labelled? tag c a) (labelled? tag c b) := by
  refine alike_map_labelled tag c ?_
  rw [Text.length_toList_nonBlank, Text.length_toList_nonBlank, h]

/-- A group of labels is left out where there are none. -/
theorem alike_group (tag itemTag : Tag) (cs : List Class) (c : Class) {ss ts : List String}
    (h : ss.length = ts.length) :
    List.Forall₂ Alike
      (if ss.isEmpty then [] else [element tag cs [] (ss.map (labelled itemTag c))])
      (if ts.isEmpty then [] else [element tag cs [] (ts.map (labelled itemTag c))]) := by
  simp only [List.isEmpty_iff, ← List.length_eq_zero_iff, h]
  split
  · exact .nil
  · exact .cons (.element tag cs .nil (alike_map_labelled itemTag c h)) .nil

/-- Whether a part is there at all is for the layout to say. -/
theorem alike_ite {b : Prop} [Decidable b] {ns ms : List Node} (h : List.Forall₂ Alike ns ms) :
    List.Forall₂ Alike (if b then ns else []) (if b then ms else []) := by
  split
  · exact h
  · exact .nil

/-! ## The header -/

variable {r q : Resume}

theorem alike_avatar (h : r.SameShape q) : (avatar r).Alike (avatar q) := by
  have hl : (Text.nonBlank r.avatar).toList.length = (Text.nonBlank q.avatar).toList.length := by
    rw [Text.length_toList_nonBlank, Text.length_toList_nonBlank, h.avatar]
  unfold avatar
  cases hr : Text.nonBlank r.avatar with
  | none =>
    cases hq : Text.nonBlank q.avatar with
    | none => exact .element .div _ (.cons ⟨rfl, .inl rfl⟩ .nil) (.cons (.text ..) .nil)
    | some t => simp [hr, hq] at hl
  | some s =>
    cases hq : Text.nonBlank q.avatar with
    | none => simp [hr, hq] at hl
    | some t =>
      refine .element .img _ (.cons ?_ (.cons ?_ .nil)) .nil
      · exact attributeAlike_open (by decide) ..
      · exact attributeAlike_open (by decide) ..

theorem alike_contact (h : r.SameShape q) : List.Forall₂ Alike (contact r) (contact q) :=
  alike_group .div .span [.contact] .contactItem h.length_contactItems

theorem alike_identity (layout : HeaderLayout) (h : r.SameShape q) {ns ms : List Node}
    (hb : List.Forall₂ Alike ns ms) :
    (identity layout r ns).Alike (identity layout q ms) := by
  refine .element .div [.identity] .nil (.cons (alike_labelled ..) ?_)
  exact List.rel_append (alike_ite (alike_labelled? .p .title h.title)) hb

theorem alike_header (layout : HeaderLayout) (h : r.SameShape q) :
    (header layout r).Alike (header layout q) := by
  refine .element .header _ .nil (List.rel_append ?_ ?_)
  · exact alike_ite (.cons (alike_avatar h) .nil)
  · split
    · exact .cons (alike_identity layout h .nil) (alike_contact h)
    · exact .cons (alike_identity layout h (alike_contact h)) .nil

/-! ## The sections -/

theorem alike_skillItem (style : SkillsStyle) (a b : Skill) :
    (skillItem style a).Alike (skillItem style b) := by
  cases style with
  | bars =>
    have hfill : List.Forall₂ Alike
        [element .div [.skillFill] [("style", "width: " ++ toString a.shownLevel ++ "%")] []]
        [element .div [.skillFill] [("style", "width: " ++ toString b.shownLevel ++ "%")] []] :=
      .cons (.element .div _ (.cons (attributeAlike_open (by decide) ..) .nil) .nil) .nil
    refine .element .div _ (.cons (attributeAlike_open (by decide) ..) .nil) ?_
    exact .cons (alike_labelled ..) (.cons (.element .div _ .nil hfill) .nil)
  | chips => exact .element .span _ .nil (.cons (.text ..) .nil)
  | list => exact .element .li _ .nil (.cons (.text ..) .nil)
  | grid => exact .element .div _ .nil (.cons (.text ..) .nil)

theorem alike_jobHeader (style : ExperienceStyle) {a b : Job} (h : a.SameShape b) :
    (jobHeader style a).Alike (jobHeader style b) := by
  refine .element .div _ .nil (List.rel_append (List.rel_append ?_ ?_) ?_)
  · exact .cons (alike_labelled ..) (.cons (alike_labelled ..) .nil)
  · exact alike_map_labelled .span .duration h.length_duration
  · exact alike_ite (alike_labelled? .span .jobLocation h.location)

theorem alike_responsibilities {a b : Job} (h : a.SameShape b) :
    List.Forall₂ Alike (responsibilities a) (responsibilities b) := by
  refine alike_group .ul .li [.responsibilities] .responsibility ?_
  rw [← List.countP_eq_length_filter, h.responsibilities, List.countP_eq_length_filter]

theorem alike_jobItem (style : ExperienceStyle) {a b : Job} (h : a.SameShape b) :
    (jobItem style a).Alike (jobItem style b) := by
  refine .element .article _ .nil (List.rel_append ?_ ?_)
  · exact alike_ite (.cons (.element .span _ (.cons ⟨rfl, .inl rfl⟩ .nil) .nil) .nil)
  · exact .cons (alike_jobHeader style h) (alike_responsibilities h)

theorem alike_educationItem (style : EducationStyle) {a b : Education} (h : a.SameShape b) :
    (educationItem style a).Alike (educationItem style b) := by
  refine .element _ _ .nil (.cons (alike_labelled ..) (.cons (alike_labelled ..) ?_))
  exact alike_labelled? .span .year h.year

theorem alike_body {α : Type} {xs ys : List α} (h : xs.length = ys.length) {n m : Node}
    (hb : n.Alike m) :
    Option.Rel Alike (if xs.isEmpty then none else some n)
      (if ys.isEmpty then none else some m) := by
  simp only [List.isEmpty_iff, ← List.length_eq_zero_iff, h]
  split
  · exact .none
  · exact .some hb

theorem alike_sectionBody? (sections : SectionsLayout) (h : r.SameShape q) (kind : SectionKind) :
    Option.Rel Alike (sectionBody? sections r kind) (sectionBody? sections q kind) := by
  cases kind with
  | skills =>
    refine alike_body h.skills (.element _ _ .nil ?_)
    rw [List.forall₂_map_left_iff, List.forall₂_map_right_iff, List.forall₂_iff_get]
    exact ⟨h.skills, fun _ _ _ => alike_skillItem ..⟩
  | experience =>
    refine alike_body h.jobs.length_eq (.element .div _ .nil ?_)
    rw [List.forall₂_map_left_iff, List.forall₂_map_right_iff]
    exact h.jobs.imp fun _ _ hjob => alike_jobItem _ hjob
  | education =>
    refine alike_body h.educations.length_eq (.element _ _ .nil ?_)
    rw [List.forall₂_map_left_iff, List.forall₂_map_right_iff]
    exact h.educations.imp fun _ _ hentry => alike_educationItem _ hentry

theorem alike_sectionsOf (sections : SectionsLayout) (h : r.SameShape q)
    (kinds : List SectionKind) :
    List.Forall₂ Alike (sectionsOf sections r kinds) (sectionsOf sections q kinds) := by
  refine List.rel_filterMap (R := Eq) ?_ (List.forall₂_refl kinds)
  rintro kind _ rfl
  have hbody := alike_sectionBody? sections h kind
  unfold section?
  generalize sectionBody? sections r kind = a, sectionBody? sections q kind = b at hbody ⊢
  cases hbody with
  | none => exact .none
  | some hb =>
    exact .some (.element .section _ .nil (.cons (alike_labelled ..) (.cons hb .nil)))

/-! ## The content -/

theorem alike_column (sections : SectionsLayout) (h : r.SameShape q) (side : Side)
    (kinds : List SectionKind) :
    List.Forall₂ Alike (column sections r side kinds) (column sections q side kinds) := by
  unfold column
  split
  · exact .nil
  · exact .cons (.element .div _ .nil (alike_sectionsOf sections h kinds)) .nil

theorem alike_content (sections : SectionsLayout) (h : r.SameShape q) :
    (content sections r).Alike (content sections q) := by
  refine .element .main _ .nil (List.rel_append ?_ ?_)
  · refine alike_ite (.cons (.element .div _ .nil ?_) .nil)
    exact List.rel_append (alike_column sections h .left _) (alike_column sections h .right _)
  · simp only [fullWidth]
    split
    · exact .nil
    · exact .cons (.element .div _ .nil (alike_sectionsOf sections h _)) .nil

end Fragment

/-- What a résumé says does not reach the structure of its fragment. -/
theorem Layout.alike_fragment (layout : Layout) {r q : Resume} (h : r.SameShape q) :
    (layout.fragment r).Alike (layout.fragment q) := by
  refine .element .div _ .nil (.cons (Fragment.alike_header layout.header h) ?_)
  refine List.rel_append (Fragment.alike_labelled? .p .summary h.summary) ?_
  exact .cons (Fragment.alike_content layout.sections h) .nil

/-- Markup in a résumé makes none in its fragment. -/
theorem Layout.alike_fragment_neutral :
    let r : Resume :=
      { primaryName := "Ada", summary := some "Notes", skills := [{ name := "Logic" }]
        jobs :=
          [{ title := "Analyst", startDate := some "1842", responsibilities := ["Wrote", " "] }]
        educations := [{ degree := "Mathematics" }] }
    let q : Resume :=
      { primaryName := "<h1>", summary := some "</p>", avatar := some " "
        skills := [{ name := "\" style=\"", level := some 3 }]
        jobs := [{ startDate := some "-->", location := some "", responsibilities := ["<li>"] }]
        educations := [{ year := some "\t" }] }
    r.SameShape q ∧ (neutral.fragment r).Alike (neutral.fragment q) := by
  intro r q
  have h : r.SameShape q := by
    constructor
    case jobs => exact .cons ⟨by decide, by decide, by decide⟩ .nil
    case educations => exact .cons ⟨by decide⟩ .nil
    all_goals decide
  exact ⟨h, alike_fragment neutral h⟩

end Vitae

import Vitae.Fragment
import Vitae.Proofs.Markup.Walk

/-! # Text and elements apart

An element of a fragment holds one text or elements only, never both, and an image holds nothing. No
element is styled by itself but the fill of a skill bar. So line ends may be put between elements
without a text being touched, and a stylesheet has the last word everywhere else. -/

namespace Vitae

namespace Node

/-- What an element that stands in a fragment is like. -/
structure Apart (tag : Tag) (classes : List Class) (attributes : List (String × String))
    (children : List Node) : Prop where
  content : (∃ s, children = [text s]) ∨ ∀ n ∈ children, n.isText = false
  void : tag.isVoid = true → children = []
  style : "style" ∈ attributes.map Prod.fst → classes = [.skillFill]

def IsApart : Node → Prop
  | text _ => True
  | element tag classes attributes children => Apart tag classes attributes children

/-- An element in which text and elements are kept apart at every depth. -/
def KeepsApart (n : Node) : Prop := n.isText = false ∧ ∀ e ∈ n.walk, e.IsApart

variable {tag : Tag} {cs : List Class} {as : List (String × String)}

theorem keepsApart_box (ht : tag.isVoid = false) (ha : "style" ∉ as.map Prod.fst) {ns : List Node}
    (hn : ∀ n ∈ ns, n.KeepsApart) : (element tag cs as ns).KeepsApart := by
  have he : (element tag cs as ns).IsApart :=
    { content := .inr fun n h => (hn n h).1
      void := fun h => by rw [ht] at h; cases h
      style := fun h => absurd h ha }
  exact ⟨rfl, forall_mem_walk_element.mpr ⟨he, fun n h => (hn n h).2⟩⟩

theorem keepsApart_leaf (ht : tag.isVoid = false) (ha : "style" ∉ as.map Prod.fst) (s : String) :
    (element tag cs as [text s]).KeepsApart := by
  have he : (element tag cs as [text s]).IsApart :=
    { content := .inl ⟨s, rfl⟩
      void := fun h => by rw [ht] at h; cases h
      style := fun h => absurd h ha }
  refine ⟨rfl, forall_mem_walk_element.mpr ⟨he, ?_⟩⟩
  simp

theorem keepsApart_empty (ha : "style" ∈ as.map Prod.fst → cs = [.skillFill]) :
    (element tag cs as []).KeepsApart := by
  have he : (element tag cs as []).IsApart :=
    { content := .inr (by simp), void := fun _ => rfl, style := ha }
  exact ⟨rfl, forall_mem_walk_element.mpr ⟨he, by simp⟩⟩

end Node

namespace Fragment

open Node (element keepsApart_box keepsApart_leaf keepsApart_empty)

theorem keepsApart_labelled {tag : Tag} (ht : tag.isVoid = false) (c : Class) (s : String) :
    (labelled tag c s).KeepsApart :=
  keepsApart_leaf ht (by simp) s

theorem keepsApart_map_labelled {tag : Tag} (ht : tag.isVoid = false) (c : Class)
    (ss : List String) : ∀ n ∈ ss.map (labelled tag c), n.KeepsApart := by
  simp [keepsApart_labelled ht]

theorem keepsApart_labelled? {tag : Tag} (ht : tag.isVoid = false) (c : Class)
    (field : Option String) : ∀ n ∈ labelled? tag c field, n.KeepsApart :=
  keepsApart_map_labelled ht c _

/-! ## The header -/

theorem keepsApart_avatar (r : Resume) : (avatar r).KeepsApart := by
  unfold avatar
  split
  · exact keepsApart_empty (by simp)
  · exact keepsApart_leaf rfl (by simp) _

theorem keepsApart_contact (r : Resume) : ∀ n ∈ contact r, n.KeepsApart := by
  simp only [contact]
  split
  · simp
  · simpa using keepsApart_box rfl (by simp) (keepsApart_map_labelled rfl _ _)

theorem keepsApart_identity (layout : HeaderLayout) (r : Resume) {below : List Node}
    (hb : ∀ n ∈ below, n.KeepsApart) : (identity layout r below).KeepsApart := by
  refine keepsApart_box rfl (by simp)
    (List.forall_mem_cons.mpr ⟨keepsApart_labelled rfl _ _, List.forall_mem_append.mpr ⟨?_, hb⟩⟩)
  split
  · exact keepsApart_labelled? rfl _ _
  · simp

theorem keepsApart_header (layout : HeaderLayout) (r : Resume) :
    (header layout r).KeepsApart := by
  refine keepsApart_box rfl (by simp) (List.forall_mem_append.mpr ⟨?_, ?_⟩)
  · split
    · simpa using keepsApart_avatar r
    · simp
  · split
    · exact List.forall_mem_cons.mpr
        ⟨keepsApart_identity layout r (by simp), keepsApart_contact r⟩
    · simpa using keepsApart_identity layout r (keepsApart_contact r)

/-! ## The sections -/

theorem keepsApart_skillItem (style : SkillsStyle) (skill : Skill) :
    (skillItem style skill).KeepsApart := by
  cases style with
  | bars =>
    refine keepsApart_box rfl (by simp) (List.forall_mem_cons.mpr
      ⟨keepsApart_labelled rfl _ _, List.forall_mem_singleton.mpr ?_⟩)
    exact keepsApart_box rfl (by simp)
      (List.forall_mem_singleton.mpr (keepsApart_empty fun _ => rfl))
  | chips | list | grid => exact keepsApart_leaf rfl (by simp) _

theorem keepsApart_skills (style : SkillsStyle) (items : List Skill) :
    (skills style items).KeepsApart := by
  refine keepsApart_box (by split <;> rfl) (by simp) fun n hn => ?_
  obtain ⟨skill, -, rfl⟩ := List.mem_map.mp hn
  exact keepsApart_skillItem style skill

theorem keepsApart_jobHeader (style : ExperienceStyle) (job : Job) :
    (jobHeader style job).KeepsApart := by
  refine keepsApart_box rfl (by simp)
    (List.forall_mem_append.mpr ⟨List.forall_mem_append.mpr ⟨?_, ?_⟩, ?_⟩)
  · exact List.forall_mem_cons.mpr ⟨keepsApart_labelled rfl _ _,
      List.forall_mem_singleton.mpr (keepsApart_labelled rfl _ _)⟩
  · exact keepsApart_map_labelled rfl _ _
  · split
    · exact keepsApart_labelled? rfl _ _
    · simp

theorem keepsApart_responsibilities (job : Job) :
    ∀ n ∈ responsibilities job, n.KeepsApart := by
  simp only [responsibilities]
  split
  · simp
  · simpa using keepsApart_box rfl (by simp) (keepsApart_map_labelled rfl _ _)

theorem keepsApart_jobItem (style : ExperienceStyle) (job : Job) :
    (jobItem style job).KeepsApart := by
  refine keepsApart_box rfl (by simp) (List.forall_mem_append.mpr ⟨?_, ?_⟩)
  · split
    · simpa using keepsApart_empty (by simp)
    · simp
  · exact List.forall_mem_cons.mpr
      ⟨keepsApart_jobHeader style job, keepsApart_responsibilities job⟩

theorem keepsApart_experience (style : ExperienceStyle) (jobs : List Job) :
    (experience style jobs).KeepsApart := by
  refine keepsApart_box rfl (by simp) fun n hn => ?_
  obtain ⟨job, -, rfl⟩ := List.mem_map.mp hn
  exact keepsApart_jobItem style job

theorem keepsApart_educationItem (style : EducationStyle) (entry : Education) :
    (educationItem style entry).KeepsApart := by
  refine keepsApart_box (by split <;> rfl) (by simp) ?_
  simp only [List.forall_mem_cons]
  exact ⟨keepsApart_labelled (by split <;> rfl) _ _, keepsApart_labelled rfl _ _,
    keepsApart_labelled? rfl _ _⟩

theorem keepsApart_education (style : EducationStyle) (entries : List Education) :
    (education style entries).KeepsApart := by
  refine keepsApart_box (by split <;> rfl) (by simp) fun n hn => ?_
  obtain ⟨entry, -, rfl⟩ := List.mem_map.mp hn
  exact keepsApart_educationItem style entry

variable {sections : SectionsLayout} {r : Resume}

theorem keepsApart_sectionBody {kind : SectionKind} {body : Node}
    (h : sectionBody? sections r kind = some body) : body.KeepsApart := by
  cases kind with
  | skills =>
    obtain ⟨-, rfl⟩ : _ ∧ skills sections.skills.style r.skills = body := by
      simpa [sectionBody?] using h
    exact keepsApart_skills _ _
  | experience =>
    obtain ⟨-, rfl⟩ : _ ∧ experience sections.experience.style r.jobs = body := by
      simpa [sectionBody?] using h
    exact keepsApart_experience _ _
  | education =>
    obtain ⟨-, rfl⟩ : _ ∧ education sections.education.style r.educations = body := by
      simpa [sectionBody?] using h
    exact keepsApart_education _ _

theorem keepsApart_sectionsOf (kinds : List SectionKind) :
    ∀ n ∈ sectionsOf sections r kinds, n.KeepsApart := by
  intro n hn
  obtain ⟨kind, -, hk⟩ := List.mem_filterMap.mp hn
  obtain ⟨body, hb, rfl⟩ := Option.map_eq_some_iff.mp hk
  exact keepsApart_box rfl (by simp) (List.forall_mem_cons.mpr
    ⟨keepsApart_labelled rfl _ _, List.forall_mem_singleton.mpr (keepsApart_sectionBody hb)⟩)

/-! ## The content -/

theorem keepsApart_column (side : Side) (kinds : List SectionKind) :
    ∀ n ∈ column sections r side kinds, n.KeepsApart := by
  unfold column
  split
  · simp
  · simpa using keepsApart_box rfl (by simp) (keepsApart_sectionsOf kinds)

theorem keepsApart_grid : ∀ n ∈ grid sections r, n.KeepsApart := by
  simp only [grid]
  split
  · simpa using keepsApart_box rfl (by simp)
      (List.forall_mem_append.mpr ⟨keepsApart_column _ _, keepsApart_column _ _⟩)
  · simp

theorem keepsApart_fullWidth : ∀ n ∈ fullWidth sections r, n.KeepsApart := by
  simp only [fullWidth]
  split
  · simp
  · simpa using keepsApart_box rfl (by simp) (keepsApart_sectionsOf _)

theorem keepsApart_content : (content sections r).KeepsApart :=
  keepsApart_box rfl (by simp)
    (List.forall_mem_append.mpr ⟨keepsApart_grid, keepsApart_fullWidth⟩)

end Fragment

theorem keepsApart_fragment (layout : Layout) (r : Resume) : (layout.fragment r).KeepsApart := by
  refine Node.keepsApart_box rfl (by simp) (List.forall_mem_cons.mpr
    ⟨Fragment.keepsApart_header _ _, List.forall_mem_append.mpr ⟨?_, ?_⟩⟩)
  · exact Fragment.keepsApart_labelled? rfl _ _
  · exact List.forall_mem_singleton.mpr Fragment.keepsApart_content

end Vitae

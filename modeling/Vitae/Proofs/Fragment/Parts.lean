import Vitae.Fragment
import Vitae.Proofs.Markup.Walk

/-! # The parts of a fragment

Whatever the résumé says, each element of a fragment is one of a few parts, and the layout says
which. A part is a tag with the classes it carries; both are fixed together, so that a stylesheet
written for the classes can rely on the tag. -/

namespace Vitae

inductive Part (layout : Layout) : Tag → List Class → Prop
  | resume : Part layout .div [.resume]
  | header : Part layout .header [.header, .headerVariant layout.header.style]
  | portrait (h : layout.header.showAvatar = true) : Part layout .img [.avatar]
  | initials (h : layout.header.showAvatar = true) : Part layout .div [.avatar, .avatarInitials]
  | identity : Part layout .div [.identity]
  | name : Part layout .h1 [.name]
  | title (h : layout.header.showTitle = true) : Part layout .p [.title]
  | contact : Part layout .div [.contact]
  | contactItem : Part layout .span [.contactItem]
  | summary : Part layout .p [.summary]
  | content : Part layout .main [.content]
  | grid (h : layout.sections.columns.hasGrid = true) :
      Part layout .div
        ([.grid] ++ Class.onlyIf (!layout.sections.columns.isTwoColumn) [.gridSingle])
  | left (h : layout.sections.columns.left ≠ []) : Part layout .div [.column, .columnSide .left]
  | right (h : layout.sections.columns.right ≠ []) : Part layout .div [.column, .columnSide .right]
  | fullWidth (h : layout.sections.columns.fullWidth ≠ []) : Part layout .div [.fullWidth]
  | section (kind : SectionKind) : Part layout .section [.section, .sectionVariant kind]
  | sectionTitle : Part layout .h2 [.sectionTitle]
  | skills :
      Part layout (if layout.sections.skills.style = .list then .ul else .div)
        [.skills, .skillsVariant layout.sections.skills.style]
  | skill {tag : Tag} (h : tag = .div ∨ tag = .span ∨ tag = .li) :
      Part layout tag [.skill, .skillVariant layout.sections.skills.style]
  | skillLabel (h : layout.sections.skills.style = .bars) : Part layout .span [.skillLabel]
  | skillTrack (h : layout.sections.skills.style = .bars) : Part layout .div [.skillTrack]
  | skillFill (h : layout.sections.skills.style = .bars) : Part layout .div [.skillFill]
  | experienceList :
      Part layout .div
        [.experienceList, .experienceListVariant layout.sections.experience.style]
  | experience :
      Part layout .article [.experience, .experienceVariant layout.sections.experience.style]
  | experienceMarker (h : layout.sections.experience.style = .timeline) :
      Part layout .span [.experienceMarker]
  | experienceHeader : Part layout .div [.experienceHeader]
  | jobTitle : Part layout .h3 [.jobTitle]
  | company : Part layout .span [.company]
  | duration : Part layout .span [.duration]
  | jobLocation (h : layout.sections.experience.style = .detailed) :
      Part layout .span [.jobLocation]
  | responsibilities : Part layout .ul [.responsibilities]
  | responsibility : Part layout .li [.responsibility]
  | educationList :
      Part layout (if layout.sections.education.style = .list then .ul else .div)
        [.educationList, .educationListVariant layout.sections.education.style]
  | education :
      Part layout (if layout.sections.education.style = .list then .li else .div)
        [.education, .educationVariant layout.sections.education.style]
  | degree :
      Part layout (if layout.sections.education.style = .list then .span else .h3) [.degree]
  | institution : Part layout .span [.institution]
  | year : Part layout .span [.year]

namespace Node

def IsPart (layout : Layout) : Node → Prop
  | text _ => True
  | element tag classes _ _ => Part layout tag classes

/-- All elements of the tree are parts of a fragment. -/
def Fits (layout : Layout) (n : Node) : Prop := ∀ e ∈ n.walk, e.IsPart layout

theorem fits_text (layout : Layout) (s : String) : (text s).Fits layout := by
  simp [Fits]

theorem fits_element {layout : Layout} {tag : Tag} {cs : List Class} {as : List (String × String)}
    {ns : List Node} (hp : Part layout tag cs) (hn : ∀ n ∈ ns, n.Fits layout) :
    (element tag cs as ns).Fits layout :=
  forall_mem_walk_element.mpr ⟨hp, hn⟩

end Node

namespace Fragment

open Node (fits_text fits_element)

variable {layout : Layout} {r : Resume}

theorem fits_labelled {tag : Tag} {c : Class} (hp : Part layout tag [c]) (s : String) :
    (labelled tag c s).Fits layout := by
  apply fits_element hp
  simp [fits_text]

theorem fits_labelled? {tag : Tag} {c : Class} (hp : Part layout tag [c]) (field : Option String) :
    ∀ n ∈ labelled? tag c field, n.Fits layout := by
  intro n hn
  obtain ⟨s, -, rfl⟩ := List.mem_map.mp hn
  exact fits_labelled hp s

/-! ## The header -/

theorem fits_avatar (h : layout.header.showAvatar = true) : (avatar r).Fits layout := by
  unfold avatar
  split
  · exact fits_element (.portrait h) (by simp)
  · exact fits_element (.initials h) (by simp [fits_text])

theorem fits_contact : ∀ n ∈ contact r, n.Fits layout := by
  intro n hn
  simp only [contact] at hn
  split at hn
  · cases hn
  · rw [List.mem_singleton.mp hn]
    refine fits_element .contact fun n hn => ?_
    obtain ⟨s, -, rfl⟩ := List.mem_map.mp hn
    exact fits_labelled .contactItem s

theorem fits_identity {below : List Node} (hb : ∀ n ∈ below, n.Fits layout) :
    (identity layout.header r below).Fits layout := by
  refine fits_element .identity (List.forall_mem_cons.mpr ⟨fits_labelled .name _, ?_⟩)
  rw [List.forall_mem_append]
  refine ⟨?_, hb⟩
  split
  · rename_i h
    exact fits_labelled? (.title h) r.title
  · simp

theorem fits_header : (header layout.header r).Fits layout := by
  refine fits_element .header (List.forall_mem_append.mpr ⟨?_, ?_⟩)
  · split
    · rename_i h
      simpa using fits_avatar h
    · simp
  · split
    · exact List.forall_mem_cons.mpr ⟨fits_identity (by simp), fits_contact⟩
    · simpa using fits_identity fits_contact

/-! ## The sections -/

theorem fits_skillItem (skill : Skill) :
    (skillItem layout.sections.skills.style skill).Fits layout := by
  cases hs : layout.sections.skills.style with
  | bars =>
    refine fits_element (hs ▸ .skill (.inl rfl)) ?_
    simp only [List.forall_mem_cons, List.not_mem_nil, false_implies, implies_true, and_true]
    refine ⟨fits_labelled (.skillLabel hs) _, fits_element (.skillTrack hs) ?_⟩
    simpa using fits_element (.skillFill hs) (by simp)
  | chips => exact fits_element (hs ▸ .skill (.inr (.inl rfl))) (by simp [fits_text])
  | list => exact fits_element (hs ▸ .skill (.inr (.inr rfl))) (by simp [fits_text])
  | grid => exact fits_element (hs ▸ .skill (.inl rfl)) (by simp [fits_text])

theorem fits_skills (items : List Skill) :
    (skills layout.sections.skills.style items).Fits layout := by
  refine fits_element .skills fun n hn => ?_
  obtain ⟨skill, -, rfl⟩ := List.mem_map.mp hn
  exact fits_skillItem skill

theorem fits_jobHeader (job : Job) :
    (jobHeader layout.sections.experience.style job).Fits layout := by
  refine fits_element .experienceHeader ?_
  simp only [List.forall_mem_append, List.forall_mem_cons, List.not_mem_nil, false_implies,
    implies_true, and_true]
  refine ⟨⟨⟨fits_labelled .jobTitle _, fits_labelled .company _⟩, ?_⟩, ?_⟩
  · intro n hn
    obtain ⟨s, -, rfl⟩ := List.mem_map.mp hn
    exact fits_labelled .duration s
  · split
    · rename_i h
      exact fits_labelled? (.jobLocation h) job.location
    · simp

theorem fits_responsibilities (job : Job) : ∀ n ∈ responsibilities job, n.Fits layout := by
  intro n hn
  simp only [responsibilities] at hn
  split at hn
  · cases hn
  · rw [List.mem_singleton.mp hn]
    refine fits_element .responsibilities fun n hn => ?_
    obtain ⟨s, -, rfl⟩ := List.mem_map.mp hn
    exact fits_labelled .responsibility s

theorem fits_jobItem (job : Job) : (jobItem layout.sections.experience.style job).Fits layout := by
  refine fits_element .experience (List.forall_mem_append.mpr ⟨?_, ?_⟩)
  · split
    · rename_i h
      simpa using fits_element (.experienceMarker h) (by simp)
    · simp
  · exact List.forall_mem_cons.mpr ⟨fits_jobHeader job, fits_responsibilities job⟩

theorem fits_experience (jobs : List Job) :
    (experience layout.sections.experience.style jobs).Fits layout := by
  refine fits_element .experienceList fun n hn => ?_
  obtain ⟨job, -, rfl⟩ := List.mem_map.mp hn
  exact fits_jobItem job

theorem fits_educationItem (entry : Education) :
    (educationItem layout.sections.education.style entry).Fits layout := by
  refine fits_element .education ?_
  simp only [List.forall_mem_cons]
  exact ⟨fits_labelled .degree _, fits_labelled .institution _, fits_labelled? .year _⟩

theorem fits_education (entries : List Education) :
    (education layout.sections.education.style entries).Fits layout := by
  refine fits_element .educationList fun n hn => ?_
  obtain ⟨entry, -, rfl⟩ := List.mem_map.mp hn
  exact fits_educationItem entry

theorem fits_sectionBody {kind : SectionKind} {body : Node}
    (h : sectionBody? layout.sections r kind = some body) : body.Fits layout := by
  cases kind with
  | skills =>
    obtain ⟨-, rfl⟩ : _ ∧ skills layout.sections.skills.style r.skills = body := by
      simpa [sectionBody?] using h
    exact fits_skills _
  | experience =>
    obtain ⟨-, rfl⟩ : _ ∧ experience layout.sections.experience.style r.jobs = body := by
      simpa [sectionBody?] using h
    exact fits_experience _
  | education =>
    obtain ⟨-, rfl⟩ : _ ∧ education layout.sections.education.style r.educations = body := by
      simpa [sectionBody?] using h
    exact fits_education _

theorem fits_sectionsOf (kinds : List SectionKind) :
    ∀ n ∈ sectionsOf layout.sections r kinds, n.Fits layout := by
  intro n hn
  obtain ⟨kind, -, hk⟩ := List.mem_filterMap.mp hn
  obtain ⟨body, hb, rfl⟩ := Option.map_eq_some_iff.mp hk
  refine fits_element (.section kind) ?_
  simp only [List.forall_mem_cons, List.not_mem_nil, false_implies, implies_true, and_true]
  exact ⟨fits_labelled .sectionTitle _, fits_sectionBody hb⟩

/-! ## The content -/

theorem fits_column {side : Side} {kinds : List SectionKind}
    (hp : kinds ≠ [] → Part layout .div [.column, .columnSide side]) :
    ∀ n ∈ column layout.sections r side kinds, n.Fits layout := by
  intro n hn
  unfold column at hn
  split at hn
  · cases hn
  · rename_i h
    rw [List.mem_singleton.mp hn]
    exact fits_element (hp (by simpa using h)) (fits_sectionsOf kinds)

theorem fits_grid : ∀ n ∈ grid layout.sections r, n.Fits layout := by
  intro n hn
  simp only [grid] at hn
  split at hn
  · rename_i h
    rw [List.mem_singleton.mp hn]
    exact fits_element (.grid h)
      (List.forall_mem_append.mpr ⟨fits_column .left, fits_column .right⟩)
  · cases hn

theorem fits_fullWidth : ∀ n ∈ fullWidth layout.sections r, n.Fits layout := by
  intro n hn
  simp only [fullWidth] at hn
  split at hn
  · cases hn
  · rename_i h
    rw [List.mem_singleton.mp hn]
    exact fits_element (.fullWidth (by simpa using h)) (fits_sectionsOf _)

theorem fits_content : (content layout.sections r).Fits layout :=
  fits_element .content (List.forall_mem_append.mpr ⟨fits_grid, fits_fullWidth⟩)

end Fragment

theorem fits_fragment (layout : Layout) (r : Resume) : (layout.fragment r).Fits layout := by
  refine Node.fits_element .resume ?_
  simp only [List.forall_mem_cons, List.forall_mem_append, List.not_mem_nil, false_implies,
    implies_true, and_true]
  exact ⟨Fragment.fits_header, Fragment.fits_labelled? .summary r.summary, Fragment.fits_content⟩

end Vitae

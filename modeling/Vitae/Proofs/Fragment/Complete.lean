import Vitae.Proofs.Fragment.Frame
import Vitae.Proofs.Stylesheet.Cascade

/-! # Complete résumés

A résumé that leaves nothing blank but its portrait shows every class that a layout has a use for,
whatever the layout. So a vocabulary lists the classes of the fragments of its layout and no others,
and every rule that a stylesheet has for a class is about some element. -/

namespace Vitae

open Text (IsWord nonBlank)

structure Job.Complete (job : Job) : Prop where
  start : (nonBlank job.startDate).isSome
  place : (nonBlank job.location).isSome
  responsibility : ∃ s ∈ job.responsibilities, Text.isBlank s = false

/-- A portrait is shown in place of the initials, which have a class of their own. -/
structure Resume.Complete (r : Resume) : Prop where
  portrait : nonBlank r.avatar = none
  title : (nonBlank r.title).isSome
  contact : r.contactItems ≠ []
  summary : (nonBlank r.summary).isSome
  skill : r.skills ≠ []
  job : ∃ job ∈ r.jobs, job.Complete
  education : ∃ entry ∈ r.educations, (nonBlank entry.year).isSome

theorem Resume.exists_complete : ∃ r : Resume, r.Complete := by
  let job : Job :=
    { startDate := some "1842", location := some "London", responsibilities := ["Notes"] }
  have hjob : job.Complete :=
    { start := by decide
      place := by decide
      responsibility := ⟨"Notes", List.mem_cons_self, by decide⟩ }
  refine ⟨{ title := some "Analyst", email := some "ada@example.org", summary := some "Engines"
            skills := [{}], jobs := [job], educations := [{ year := some "1835" }] }, ?_⟩
  exact
    { portrait := rfl
      title := by decide
      contact := by decide
      summary := by decide
      skill := List.cons_ne_nil _ _
      job := ⟨job, List.mem_cons_self, hjob⟩
      education := ⟨_, List.mem_cons_self, by decide⟩ }

namespace Node

/-- Some element of the tree carries the class. -/
def Shows (n : Node) (c : Class) : Prop := ∃ e ∈ n.walk, c ∈ e.classes

theorem shows_element {tag : Tag} {cs : List Class} {as : List (String × String)}
    {ns : List Node} {c : Class} :
    (element tag cs as ns).Shows c ↔ c ∈ cs ∨ ∃ n ∈ ns, n.Shows c := by
  unfold Shows
  rw [walk_element]
  constructor
  · rintro ⟨e, he, hc⟩
    rcases List.mem_cons.mp he with rfl | he
    · exact .inl hc
    · obtain ⟨n, hn, he⟩ := List.mem_flatMap.mp he
      exact .inr ⟨n, hn, e, he, hc⟩
  · rintro (hc | ⟨n, hn, e, he, hc⟩)
    · exact ⟨_, List.mem_cons_self, hc⟩
    · exact ⟨e, List.mem_cons_of_mem _ (List.mem_flatMap.mpr ⟨n, hn, he⟩), hc⟩

theorem shows_of_child {tag : Tag} {cs : List Class} {as : List (String × String)}
    {ns : List Node} {n : Node} {c : Class} (hn : n ∈ ns) (h : n.Shows c) :
    (element tag cs as ns).Shows c :=
  shows_element.mpr (.inr ⟨n, hn, h⟩)

end Node

namespace Fragment

open Node (element text Shows shows_element shows_of_child)

variable {r : Resume} {c : Class}

theorem shows_labelled (tag : Tag) (c : Class) (s : String) : (labelled tag c s).Shows c :=
  shows_element.mpr (.inl List.mem_cons_self)

theorem shows_labelled? {field : Option String} (h : (nonBlank field).isSome) (tag : Tag)
    (c : Class) : ∃ n ∈ labelled? tag c field, n.Shows c := by
  obtain ⟨s, hs⟩ := Option.isSome_iff_exists.mp h
  refine ⟨labelled tag c s, ?_, shows_labelled tag c s⟩
  simp [labelled?, hs]

/-! ## The header -/

theorem shows_avatar (h : nonBlank r.avatar = none) (hc : c ∈ [.avatar, .avatarInitials]) :
    (avatar r).Shows c := by
  unfold avatar
  rw [h]
  exact shows_element.mpr (.inl hc)

theorem shows_contact (h : r.contactItems ≠ []) (hc : c = .contact ∨ c = .contactItem) :
    ∃ n ∈ contact r, n.Shows c := by
  obtain ⟨s, ss, hs⟩ := List.exists_cons_of_ne_nil h
  simp only [contact, hs, List.isEmpty_cons, Bool.false_eq_true, if_false]
  refine ⟨_, List.mem_singleton_self _, shows_element.mpr ?_⟩
  rcases hc with rfl | rfl
  · exact .inl List.mem_cons_self
  · exact .inr ⟨_, List.mem_cons_self, shows_labelled ..⟩

theorem shows_identity {layout : HeaderLayout} {below : List Node}
    (h : c = .identity ∨ c = .name ∨
      c = .title ∧ layout.showTitle = true ∧ (nonBlank r.title).isSome ∨
      ∃ n ∈ below, n.Shows c) : (identity layout r below).Shows c := by
  refine shows_element.mpr ?_
  rcases h with rfl | rfl | ⟨rfl, hshow, htitle⟩ | ⟨n, hn, hc⟩
  · exact .inl List.mem_cons_self
  · exact .inr ⟨_, List.mem_cons_self, shows_labelled ..⟩
  · obtain ⟨n, hn, hc⟩ := shows_labelled? htitle .p .title
    refine .inr ⟨n, List.mem_cons_of_mem _ (List.mem_append_left _ ?_), hc⟩
    rwa [if_pos hshow]
  · exact .inr ⟨n, List.mem_cons_of_mem _ (List.mem_append_right _ hn), hc⟩

/-- Contact details are shown beside the identity or in it. -/
theorem shows_header_rest {layout : HeaderLayout} (hr : r.Complete)
    (h : c ∈ [.identity, .name, .contact, .contactItem] ∨
      c = .title ∧ layout.showTitle = true) : (header layout r).Shows c := by
  have hrest : ∃ n ∈ (if layout.style = .split then identity layout r [] :: contact r
      else [identity layout r (contact r)]), n.Shows c := by
    by_cases hcontact : c = .contact ∨ c = .contactItem
    · obtain ⟨n, hn, hc⟩ := shows_contact hr.contact hcontact
      split
      · exact ⟨n, List.mem_cons_of_mem _ hn, hc⟩
      · exact ⟨_, List.mem_cons_self, shows_identity (.inr (.inr (.inr ⟨n, hn, hc⟩)))⟩
    · have hidentity (below : List Node) : (identity layout r below).Shows c := by
        apply shows_identity
        rcases h with h | ⟨rfl, hshow⟩
        · simp only [List.mem_cons, List.not_mem_nil, or_false] at h
          tauto
        · exact .inr (.inr (.inl ⟨rfl, hshow, hr.title⟩))
      split
      · exact ⟨_, List.mem_cons_self, hidentity _⟩
      · exact ⟨_, List.mem_cons_self, hidentity _⟩
  obtain ⟨n, hn, hc⟩ := hrest
  exact shows_of_child (List.mem_append_right _ hn) hc

theorem shows_header_avatar {layout : HeaderLayout} (hr : r.Complete)
    (hshow : layout.showAvatar = true) (hc : c ∈ [.avatar, .avatarInitials]) :
    (header layout r).Shows c := by
  refine shows_of_child (List.mem_append_left _ ?_) (shows_avatar hr.portrait hc)
  rw [if_pos hshow]
  exact List.mem_singleton_self _

/-! ## The sections -/

theorem shows_skillItem {style : SkillsStyle} (skill : Skill)
    (h : c ∈ [.skill, .skillVariant style] ∨
      style = .bars ∧ c ∈ [.skillLabel, .skillTrack, .skillFill]) :
    (skillItem style skill).Shows c := by
  rcases h with hc | ⟨rfl, hc⟩
  · cases style <;> exact shows_element.mpr (.inl hc)
  · simp only [List.mem_cons, List.not_mem_nil, or_false] at hc
    rcases hc with rfl | rfl | rfl
    · exact shows_of_child List.mem_cons_self (shows_labelled ..)
    · refine shows_of_child (List.mem_cons_of_mem _ List.mem_cons_self) ?_
      exact shows_element.mpr (.inl List.mem_cons_self)
    · refine shows_of_child (List.mem_cons_of_mem _ List.mem_cons_self) ?_
      refine shows_of_child List.mem_cons_self ?_
      exact shows_element.mpr (.inl List.mem_cons_self)

theorem shows_skills {style : SkillsStyle} {items : List Skill} (hi : items ≠ [])
    (h : c ∈ [.skills, .skillsVariant style, .skill, .skillVariant style] ∨
      style = .bars ∧ c ∈ [.skillLabel, .skillTrack, .skillFill]) :
    (skills style items).Shows c := by
  obtain ⟨skill, rest, rfl⟩ := List.exists_cons_of_ne_nil hi
  by_cases hlist : c ∈ [.skills, .skillsVariant style]
  · exact shows_element.mpr (.inl hlist)
  · refine shows_of_child List.mem_cons_self (shows_skillItem skill ?_)
    simp only [List.mem_cons, List.not_mem_nil, or_false] at h hlist ⊢
    tauto

theorem shows_jobHeader {style : ExperienceStyle} {job : Job} (hj : job.Complete)
    (h : c ∈ [.experienceHeader, .jobTitle, .company, .duration] ∨
      style = .detailed ∧ c = .jobLocation) : (jobHeader style job).Shows c := by
  rcases h with hc | ⟨rfl, rfl⟩
  · simp only [List.mem_cons, List.not_mem_nil, or_false] at hc
    rcases hc with rfl | rfl | rfl | rfl
    · exact shows_element.mpr (.inl List.mem_cons_self)
    · exact shows_of_child (n := labelled .h3 .jobTitle job.title) (by simp) (shows_labelled ..)
    · exact shows_of_child (n := labelled .span .company job.company) (by simp) (shows_labelled ..)
    · have hd : job.duration.isSome := by
        rw [Job.duration, Option.isSome_map]
        exact hj.start
      obtain ⟨s, hs⟩ := Option.isSome_iff_exists.mp hd
      have hm : labelled .span .duration s ∈ job.duration.toList.map (labelled .span .duration) :=
        List.mem_map_of_mem (Option.mem_toList.mpr hs)
      exact shows_of_child (List.mem_append_left _ (List.mem_append_right _ hm))
        (shows_labelled ..)
  · obtain ⟨n, hn, hc⟩ := shows_labelled? hj.place .span .jobLocation
    exact shows_of_child (List.mem_append_right _ hn) hc

theorem shows_responsibilities {job : Job} (hj : job.Complete)
    (hc : c = .responsibilities ∨ c = .responsibility) :
    ∃ n ∈ responsibilities job, n.Shows c := by
  obtain ⟨s, hs, hblank⟩ := hj.responsibility
  have hmem : s ∈ job.responsibilities.filter (!Text.isBlank ·) :=
    List.mem_filter.mpr ⟨hs, by rw [hblank]; rfl⟩
  have hne : (job.responsibilities.filter (!Text.isBlank ·)).isEmpty = false := by
    rw [List.isEmpty_eq_false_iff]
    exact List.ne_nil_of_mem hmem
  simp only [responsibilities, hne, Bool.false_eq_true, if_false]
  refine ⟨_, List.mem_singleton_self _, shows_element.mpr ?_⟩
  rcases hc with rfl | rfl
  · exact .inl List.mem_cons_self
  · exact .inr ⟨_, List.mem_map_of_mem hmem, shows_labelled ..⟩

theorem shows_jobItem {style : ExperienceStyle} {job : Job} (hj : job.Complete)
    (h : c ∈ [.experience, .experienceVariant style] ∨
      style = .timeline ∧ c = .experienceMarker ∨
      (jobHeader style job).Shows c ∨ c = .responsibilities ∨ c = .responsibility) :
    (jobItem style job).Shows c := by
  refine shows_element.mpr ?_
  rcases h with hc | ⟨rfl, rfl⟩ | hc | hc
  · exact .inl hc
  · refine .inr ⟨_, List.mem_append_left _ (List.mem_singleton_self _), ?_⟩
    exact shows_element.mpr (.inl List.mem_cons_self)
  · exact .inr ⟨_, List.mem_append_right _ List.mem_cons_self, hc⟩
  · obtain ⟨n, hn, hc⟩ := shows_responsibilities hj hc
    exact .inr ⟨n, List.mem_append_right _ (List.mem_cons_of_mem _ hn), hc⟩

theorem shows_experience {style : ExperienceStyle} {jobs : List Job} {job : Job} (hm : job ∈ jobs)
    (h : c ∈ [.experienceList, .experienceListVariant style] ∨ (jobItem style job).Shows c) :
    (experience style jobs).Shows c := by
  rcases h with hc | hc
  · exact shows_element.mpr (.inl hc)
  · exact shows_of_child (List.mem_map_of_mem hm) hc

theorem shows_education {style : EducationStyle} {entries : List Education} {entry : Education}
    (hm : entry ∈ entries) (hy : (nonBlank entry.year).isSome)
    (h : c ∈ [.educationList, .educationListVariant style, .education, .educationVariant style,
      .degree, .institution, .year]) : (education style entries).Shows c := by
  by_cases hlist : c ∈ [.educationList, .educationListVariant style]
  · exact shows_element.mpr (.inl hlist)
  · refine shows_of_child (List.mem_map_of_mem hm) (shows_element.mpr ?_)
    by_cases hitem : c ∈ [.education, .educationVariant style]
    · exact .inl hitem
    · simp only [List.mem_cons, List.not_mem_nil, or_false, not_or] at h hlist hitem
      obtain rfl | rfl | rfl : c = .degree ∨ c = .institution ∨ c = .year := by tauto
      · exact .inr ⟨_, List.mem_cons_self, shows_labelled ..⟩
      · exact .inr ⟨_, List.mem_cons_of_mem _ List.mem_cons_self, shows_labelled ..⟩
      · obtain ⟨n, hn, hc⟩ := shows_labelled? hy .span .year
        exact .inr ⟨n, List.mem_cons_of_mem _ (List.mem_cons_of_mem _ hn), hc⟩

/-! ## The content -/

theorem shows_section {sections : SectionsLayout} {kind : SectionKind} {kinds : List SectionKind}
    (hk : kind ∈ kinds) {body : Node} (hb : sectionBody? sections r kind = some body)
    (h : c ∈ [.section, .sectionVariant kind, .sectionTitle] ∨ body.Shows c) :
    ∃ n ∈ sectionsOf sections r kinds, n.Shows c := by
  refine ⟨_, List.mem_filterMap.mpr ⟨kind, hk, by rw [section?, hb]; rfl⟩, ?_⟩
  refine shows_element.mpr ?_
  rcases h with hc | hc
  · simp only [List.mem_cons, List.not_mem_nil, or_false] at hc
    rcases hc with rfl | rfl | rfl
    · exact .inl List.mem_cons_self
    · exact .inl (List.mem_cons_of_mem _ List.mem_cons_self)
    · exact .inr ⟨_, List.mem_cons_self, shows_labelled ..⟩
  · exact .inr ⟨body, List.mem_cons_of_mem _ List.mem_cons_self, hc⟩

theorem shows_boxes {sections : SectionsLayout} {p : Position}
    (hp : sections.placedAt p ≠ [])
    (h : c ∈ boxClasses p ∨ ∃ n ∈ sectionsOf sections r (sections.placedAt p), n.Shows c) :
    ∃ n ∈ boxes sections r p, n.Shows c := by
  refine ⟨box sections r p, ?_, shows_element.mpr h⟩
  rw [boxes, if_neg (by simpa using hp)]
  exact List.mem_singleton_self _

theorem shows_content_of_gridBox {sections : SectionsLayout}
    (hgrid : sections.columns.hasGrid = true) (hc : (gridBox sections r).Shows c) :
    (content sections r).Shows c := by
  refine shows_of_child (List.mem_append_left _ ?_) hc
  rw [grid_eq, if_pos hgrid]
  exact List.mem_singleton_self _

theorem shows_content_of_boxes {sections : SectionsLayout} {p : Position}
    (hp : sections.placedAt p ≠ []) (h : ∃ n ∈ boxes sections r p, n.Shows c) :
    (content sections r).Shows c := by
  obtain ⟨n, hn, hc⟩ := h
  cases p with
  | left =>
    exact shows_content_of_gridBox (Class.hasGrid_of_left hp)
      (shows_of_child (List.mem_append_left _ hn) hc)
  | right =>
    exact shows_content_of_gridBox (Class.hasGrid_of_right hp)
      (shows_of_child (List.mem_append_right _ hn) hc)
  | fullWidth => exact shows_of_child (List.mem_append_right _ hn) hc

/-- A section is shown wherever the layout places it. -/
theorem shows_content_of_section {sections : SectionsLayout} {kind : SectionKind} {body : Node}
    (hb : sectionBody? sections r kind = some body)
    (h : c ∈ [.section, .sectionVariant kind, .sectionTitle] ∨ body.Shows c) :
    (content sections r).Shows c := by
  have hk : kind ∈ sections.placedAt (sections.position kind) :=
    SectionsLayout.mem_placedAt.mpr rfl
  have hp := List.ne_nil_of_mem hk
  exact shows_content_of_boxes hp (shows_boxes hp (.inr (shows_section hk hb h)))

theorem shows_content_of_box {sections : SectionsLayout} {p : Position}
    (hp : sections.placedAt p ≠ []) (hc : c ∈ boxClasses p) : (content sections r).Shows c :=
  shows_content_of_boxes hp (shows_boxes hp (.inl hc))

end Fragment

open Fragment

namespace Layout

variable {layout : Layout} {r : Resume} {c : Class}

/-! ## The fragment -/

theorem shows_of_header (h : (Fragment.header layout.header r).Shows c) :
    (layout.fragment r).Shows c :=
  Node.shows_of_child List.mem_cons_self h

theorem shows_of_content (h : (content layout.sections r).Shows c) :
    (layout.fragment r).Shows c :=
  Node.shows_of_child (List.mem_cons_of_mem _ (List.mem_append_right _ List.mem_cons_self)) h

theorem shows_of_box {p : Position} (hp : layout.sections.placedAt p ≠ [])
    (hc : c ∈ boxClasses p) : (layout.fragment r).Shows c :=
  shows_of_content (shows_content_of_box hp hc)

theorem shows_of_skills (hr : r.Complete)
    (h : c ∈ [.section, .sectionVariant .skills, .sectionTitle] ∨
      (skills layout.sections.skills.style r.skills).Shows c) : (layout.fragment r).Shows c := by
  have hb : sectionBody? layout.sections r .skills =
      some (skills layout.sections.skills.style r.skills) := by
    rw [sectionBody?, if_neg (by simpa using hr.skill)]
  exact shows_of_content (shows_content_of_section hb h)

theorem shows_of_experience {job : Job} (hm : job ∈ r.jobs)
    (h : c ∈ [.section, .sectionVariant .experience, .sectionTitle] ∨
      c ∈ [.experienceList, .experienceListVariant layout.sections.experience.style] ∨
      (jobItem layout.sections.experience.style job).Shows c) : (layout.fragment r).Shows c := by
  have hb : sectionBody? layout.sections r .experience =
      some (experience layout.sections.experience.style r.jobs) := by
    rw [sectionBody?, if_neg (by simpa using List.ne_nil_of_mem hm)]
  exact shows_of_content (shows_content_of_section hb (h.imp_right (shows_experience hm)))

theorem shows_of_education {entry : Education} (hm : entry ∈ r.educations)
    (hy : (nonBlank entry.year).isSome)
    (h : c ∈ [.section, .sectionVariant .education, .sectionTitle] ∨
      c ∈ [.educationList, .educationListVariant layout.sections.education.style, .education,
        .educationVariant layout.sections.education.style, .degree, .institution, .year]) :
    (layout.fragment r).Shows c := by
  have hb : sectionBody? layout.sections r .education =
      some (education layout.sections.education.style r.educations) := by
    rw [sectionBody?, if_neg (by simpa using List.ne_nil_of_mem hm)]
  exact shows_of_content (shows_content_of_section hb (h.imp_right (shows_education hm hy)))

/-- A complete résumé shows all that its layout has a use for. -/
theorem shows_of_usedBy (hr : r.Complete) (hc : c.UsedBy layout) : (layout.fragment r).Shows c := by
  obtain ⟨job, hjob, hj⟩ := hr.job
  obtain ⟨entry, hentry, hy⟩ := hr.education
  have ofItem (h : (jobItem layout.sections.experience.style job).Shows c) :
      (layout.fragment r).Shows c := shows_of_experience hjob (.inr (.inr h))
  have ofJobHeader (h : (jobHeader layout.sections.experience.style job).Shows c) :
      (layout.fragment r).Shows c := ofItem (shows_jobItem hj (.inr (.inr (.inl h))))
  cases c with
  | resume => exact Node.shows_element.mpr (.inl List.mem_cons_self)
  | header => exact shows_of_header (Node.shows_element.mpr (.inl List.mem_cons_self))
  | headerVariant style =>
    obtain rfl : style = layout.header.style := hc
    exact shows_of_header (Node.shows_element.mpr (.inl (by simp)))
  | avatar => exact shows_of_header (shows_header_avatar hr hc (by simp))
  | avatarInitials => exact shows_of_header (shows_header_avatar hr hc (by simp))
  | title => exact shows_of_header (shows_header_rest hr (.inr ⟨rfl, hc⟩))
  | identity | name | contact | contactItem =>
    exact shows_of_header (shows_header_rest hr (.inl (by simp)))
  | summary =>
    obtain ⟨n, hn, h⟩ := shows_labelled? hr.summary .p .summary
    exact Node.shows_of_child (List.mem_cons_of_mem _ (List.mem_append_left _ hn)) h
  | content => exact shows_of_content (Node.shows_element.mpr (.inl List.mem_cons_self))
  | grid =>
    exact shows_of_content
      (shows_content_of_gridBox hc (Node.shows_element.mpr (.inl List.mem_cons_self)))
  | gridSingle =>
    obtain ⟨hgrid, hsingle⟩ := hc
    refine shows_of_content (shows_content_of_gridBox hgrid (Node.shows_element.mpr (.inl ?_)))
    simp [hsingle, Class.onlyIf]
  | column =>
    -- a grid stands there for the sake of one of its sides
    have hside : layout.sections.placedAt .left ≠ [] ∨ layout.sections.placedAt .right ≠ [] := by
      simpa [Class.UsedBy, ColumnPlan.hasGrid, SectionsLayout.columns] using hc
    rcases hside with hp | hp
    · exact shows_of_box hp List.mem_cons_self
    · exact shows_of_box hp List.mem_cons_self
  | columnSide side =>
    cases side with
    | left => exact shows_of_box (p := .left) hc (by simp [boxClasses])
    | right => exact shows_of_box (p := .right) hc (by simp [boxClasses])
  | fullWidth => exact shows_of_box (p := .fullWidth) hc (by simp [boxClasses])
  | «section» | sectionTitle => exact shows_of_skills hr (.inl (by simp))
  | sectionVariant kind =>
    cases kind with
    | skills => exact shows_of_skills hr (.inl (by simp))
    | experience => exact shows_of_experience hjob (.inl (by simp))
    | education => exact shows_of_education hentry hy (.inl (by simp))
  | skills | skill => exact shows_of_skills hr (.inr (shows_skills hr.skill (.inl (by simp))))
  | skillsVariant style | skillVariant style =>
    obtain rfl : style = layout.sections.skills.style := hc
    exact shows_of_skills hr (.inr (shows_skills hr.skill (.inl (by simp))))
  | skillLabel | skillTrack | skillFill =>
    exact shows_of_skills hr (.inr (shows_skills hr.skill (.inr ⟨hc, by simp⟩)))
  | experienceList => exact shows_of_experience hjob (.inr (.inl (by simp)))
  | experienceListVariant style =>
    obtain rfl : style = layout.sections.experience.style := hc
    exact shows_of_experience hjob (.inr (.inl (by simp)))
  | experience => exact ofItem (shows_jobItem hj (.inl (by simp)))
  | experienceVariant style =>
    obtain rfl : style = layout.sections.experience.style := hc
    exact ofItem (shows_jobItem hj (.inl (by simp)))
  | experienceMarker => exact ofItem (shows_jobItem hj (.inr (.inl ⟨hc, rfl⟩)))
  | experienceHeader | jobTitle | company | duration =>
    exact ofJobHeader (shows_jobHeader hj (.inl (by simp)))
  | jobLocation => exact ofJobHeader (shows_jobHeader hj (.inr ⟨hc, rfl⟩))
  | responsibilities => exact ofItem (shows_jobItem hj (.inr (.inr (.inr (.inl rfl)))))
  | responsibility => exact ofItem (shows_jobItem hj (.inr (.inr (.inr (.inr rfl)))))
  | educationListVariant style | educationVariant style =>
    obtain rfl : style = layout.sections.education.style := hc
    exact shows_of_education hentry hy (.inr (by simp))
  | educationList | education | degree | institution | year =>
    exact shows_of_education hentry hy (.inr (by simp))

/-! ## The vocabulary -/

theorem mem_vocabulary_of_shows (h : (layout.fragment r).Shows c) :
    c ∈ Class.vocabulary layout := by
  obtain ⟨e, he, hc⟩ := h
  exact Class.mem_vocabulary_iff.mpr (Node.usedBy_of_mem_walk he hc)

/-- One résumé will do for all layouts: its fragment shows the whole vocabulary. So the vocabulary
is what the fragments of a layout show, and no rule for a class goes without an element that it is
about. -/
theorem vocabulary_shown :
    ∃ r : Resume, ∀ layout : Layout,
      (∀ c ∈ Class.vocabulary layout, (layout.fragment r).Shows c) ∧
      (∀ c, c ∈ Class.vocabulary layout ↔ ∃ s : Resume, (layout.fragment s).Shows c) ∧
      ∀ p, ∀ rule ∈ (layout.topRules p).drop layout.baseRules.length, ∃ above e,
        (above, e) ∈ (layout.fragment r).locate [] ∧
          (∃ c ∈ e.classes, rule.selector = "." ++ c.token p) ∧
          (IsWord p → Css.Applies p above e rule (toLex (1, 0))) := by
  obtain ⟨r, hr⟩ := Resume.exists_complete
  refine ⟨r, fun layout => ?_⟩
  have hshows : ∀ c ∈ Class.vocabulary layout, (layout.fragment r).Shows c := fun c hc =>
    shows_of_usedBy hr (Class.mem_vocabulary_iff.mp hc)
  refine ⟨hshows, fun c => ?_, fun p rule hrule => ?_⟩
  · constructor
    · intro hc
      exact ⟨r, hshows c hc⟩
    · rintro ⟨s, hs⟩
      exact mem_vocabulary_of_shows hs
  · have hclasses : (layout.topRules p).drop layout.baseRules.length =
        (Class.vocabulary layout).map fun c => (c.rule layout).text p := by
      rw [topRules_eq, ← List.length_map (f := (·.text p)), List.drop_left]
    rw [hclasses] at hrule
    obtain ⟨c, hc, rfl⟩ := List.mem_map.mp hrule
    obtain ⟨e, he, hce⟩ := hshows c hc
    obtain ⟨above, hl⟩ := Node.exists_mem_locate he
    exact ⟨above, e, hl, ⟨c, hce, Class.selector_rule_text layout c p⟩,
      fun hp => (Css.applies_class hp).mpr ⟨hce, rfl⟩⟩

end Layout

end Vitae

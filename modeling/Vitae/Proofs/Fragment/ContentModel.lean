import Vitae.Proofs.Fragment.Apart

/-! # The content model of a fragment

A browser that finds an element where HTML does not allow it builds a tree of its own, and styles
written for the fragment miss it there. So items stand in lists and lists hold nothing else, a
phrase holds a text, a section has its title and then its entries, and what the résumé has nothing
to say about is left out, not shown blank. -/

namespace Vitae

namespace Tag

/-- A page has one of each. -/
def isLandmark : Tag → Bool
  | header | main | h1 => true
  | _ => false

def isPhrase : Tag → Bool
  | h1 | h2 | h3 | p | span => true
  | _ => false

/-- Other elements may stand in it in any number. -/
def isBox : Tag → Bool
  | div | header | main | article => true
  | _ => false

end Tag

namespace Class

/-- It is there for the sake of what stands in it. -/
def isCollection : Class → Bool
  | contact | skills | experienceList | responsibilities | educationList => true
  | _ => false

/-- It shows a text that a résumé may leave blank. -/
def isOptional : Class → Bool
  | title | contactItem | summary | duration | jobLocation | responsibility | year => true
  | _ => false

end Class

/-- The entries of a section stand in an element of this class. -/
def SectionKind.collection : SectionKind → Class
  | skills => .skills
  | experience => .experienceList
  | education => .educationList

namespace Node

/-- The landmarks of a tree, in the order of their opening tags. -/
def landmarks (n : Node) : List Tag := (n.walk.filterMap tag?).filter Tag.isLandmark

/-- What an element that stands in a fragment may hold. -/
structure Proper (tag : Tag) (classes : List Class) (attributes : List (String × String))
    (children : List Node) : Prop where
  items : ∀ n ∈ children, n.tag? = some .li ↔ tag = .ul
  phrase : tag.isPhrase = true → ∀ n ∈ children, n.isText = true
  titled : tag = .section → ∃ kind body, .sectionVariant kind ∈ classes ∧
    children = [element .h2 [.sectionTitle] [] [text kind.heading], body] ∧
    kind.collection ∈ body.classes ∧ body.children ≠ []
  filled : classes.any Class.isCollection = true → children ≠ []
  shown : classes.any Class.isOptional = true →
    ∃ s, children = [text s] ∧ Text.isBlank s = false
  source : ∀ s, ("src", s) ∈ attributes → Text.isBlank s = false

def IsProper : Node → Prop
  | text _ => True
  | element tag classes attributes children => Proper tag classes attributes children

/-- A tree whose elements are proper and which has no landmarks. -/
structure Inside (n : Node) : Prop where
  proper : ∀ e ∈ n.walk, e.IsProper
  landmarks : n.landmarks = []

/-- Trees that may stand anywhere but in a list, with the landmarks in them. -/
structure Flow (ns : List Node) (marks : List Tag) : Prop where
  proper : ∀ n ∈ ns, ∀ e ∈ n.walk, e.IsProper
  notItem : ∀ n ∈ ns, n.tag? ≠ some .li
  landmarks : ns.flatMap landmarks = marks

theorem IsProper.tag_eq_ul {p e : Node} (hp : p.IsProper) (he : e ∈ p.children)
    (hli : e.tag? = some .li) : p.tag? = some .ul := by
  cases p with
  | text s => cases he
  | element tag cs as ns =>
    have hul : tag = .ul := (Proper.items hp e he).mp hli
    exact congrArg some hul

/-! ## Trees put together -/

section Element

variable {tag : Tag} {cs : List Class} {as : List (String × String)} {ns : List Node}
  {marks marks' : List Tag}

theorem landmarks_element : (element tag cs as ns).landmarks =
    [tag].filter Tag.isLandmark ++ ns.flatMap landmarks := by
  have hns : ((ns.flatMap walk).filterMap tag?).filter Tag.isLandmark = ns.flatMap landmarks := by
    induction ns with
    | nil => rfl
    | cons n ns ih =>
      rw [List.flatMap_cons, List.filterMap_append, List.filter_append, ih, List.flatMap_cons,
        landmarks]
  rw [← hns, ← List.filter_append, landmarks, walk_element]
  rfl

theorem inside_element (hl : tag.isLandmark = false) (h : Proper tag cs as ns)
    (hn : ∀ n ∈ ns, n.Inside) : (element tag cs as ns).Inside := by
  refine ⟨forall_mem_walk_element.mpr ⟨h, fun n hm => (hn n hm).proper⟩, ?_⟩
  rw [landmarks_element, List.flatMap_eq_nil_iff.mpr fun n hm => (hn n hm).landmarks]
  simp [hl]

theorem Flow.nil : Flow [] [] := ⟨by simp, by simp, rfl⟩

theorem flow_text (s : String) : Flow [text s] [] where
  proper := by simp
  notItem := by simp [tag?]
  landmarks := by simp [landmarks]

theorem Flow.append {ns' : List Node} (h : Flow ns marks) (h' : Flow ns' marks') :
    Flow (ns ++ ns') (marks ++ marks') where
  proper := List.forall_mem_append.mpr ⟨h.proper, h'.proper⟩
  notItem := List.forall_mem_append.mpr ⟨h.notItem, h'.notItem⟩
  landmarks := by rw [List.flatMap_append, h.landmarks, h'.landmarks]

theorem Flow.cons {n : Node} (h : Flow [n] marks) (h' : Flow ns marks') :
    Flow (n :: ns) (marks ++ marks') :=
  h.append h'

theorem Flow.of_inside (h : ∀ n ∈ ns, n.Inside ∧ n.tag? ≠ some .li) : Flow ns [] where
  proper := fun n hn => (h n hn).1.proper
  notItem := fun n hn => (h n hn).2
  landmarks := List.flatMap_eq_nil_iff.mpr fun n hn => (h n hn).1.landmarks

theorem Flow.inside (h : Flow ns []) : ∀ n ∈ ns, n.Inside := fun n hn =>
  ⟨h.proper n hn, List.flatMap_eq_nil_iff.mp h.landmarks n hn⟩

theorem Flow.children_ne_nil {n : Node} {c : Class} (h : Flow [n] marks) (hn : c ∈ n.classes)
    (hc : c.isCollection = true) : n.children ≠ [] := by
  cases n with
  | text s => cases hn
  | element tag cs as ns =>
    have hw : element tag cs as ns ∈ (element tag cs as ns).walk := by simp [walk_element]
    have hp : Proper tag cs as ns := h.proper _ List.mem_cons_self _ hw
    exact hp.filled (List.any_eq_true.mpr ⟨c, hn, hc⟩)

theorem proper_leaf (ht : tag.isPhrase = true ∨ tag = .div ∨ tag = .li) {s : String}
    (hs : cs.any Class.isOptional = true → Text.isBlank s = false)
    (ha : "src" ∉ as.map Prod.fst) : Proper tag cs as [text s] where
  items := by
    have hne : tag ≠ .ul := by
      intro h
      subst h
      simp [Tag.isPhrase] at ht
    simp [tag?, hne]
  phrase := by simp [isText]
  titled := by
    intro h
    subst h
    simp [Tag.isPhrase] at ht
  filled := by simp
  shown := fun hc => ⟨s, rfl, hs hc⟩
  source := fun s hm => absurd (List.mem_map_of_mem hm) ha

theorem proper_element (ht : tag.isPhrase = false) (hs : tag ≠ .section)
    (ho : cs.any Class.isOptional = false) (ha : "src" ∉ as.map Prod.fst)
    (hc : cs.any Class.isCollection = true → ns ≠ [])
    (hn : ∀ n ∈ ns, n.tag? = some .li ↔ tag = .ul) : Proper tag cs as ns where
  items := hn
  phrase := by simp [ht]
  titled := fun h => absurd h hs
  filled := hc
  shown := by simp [ho]
  source := fun s hm => absurd (List.mem_map_of_mem hm) ha

theorem proper_empty (ht : tag ≠ .section) (ho : cs.any Class.isOptional = false)
    (hc : cs.any Class.isCollection = false)
    (ha : ∀ s, ("src", s) ∈ as → Text.isBlank s = false) : Proper tag cs as [] where
  items := by simp
  phrase := by simp
  titled := fun h => absurd h ht
  filled := by simp [hc]
  shown := by simp [ho]
  source := ha

theorem proper_box (ht : tag.isBox = true ∨ tag = .li) (ho : cs.any Class.isOptional = false)
    (hc : cs.any Class.isCollection = false) (ha : "src" ∉ as.map Prod.fst) (h : Flow ns marks) :
    Proper tag cs as ns := by
  refine proper_element ?_ ?_ ho ha (by simp [hc]) ?_
  · cases tag <;> simp_all [Tag.isBox, Tag.isPhrase]
  · rintro rfl
    simp [Tag.isBox] at ht
  · intro n hn
    refine iff_of_false (h.notItem n hn) ?_
    rintro rfl
    simp [Tag.isBox] at ht

theorem flow_element (hli : tag ≠ .li) (hp : Proper tag cs as ns) (h : Flow ns marks) :
    Flow [element tag cs as ns] ([tag].filter Tag.isLandmark ++ marks) where
  proper := List.forall_mem_singleton.mpr (forall_mem_walk_element.mpr ⟨hp, h.proper⟩)
  notItem := by simp [tag?, hli]
  landmarks := by rw [List.flatMap_singleton, landmarks_element, h.landmarks]

theorem flow_box (ht : tag.isBox = true) (ho : cs.any Class.isOptional = false)
    (hc : cs.any Class.isCollection = false) (ha : "src" ∉ as.map Prod.fst) (h : Flow ns marks) :
    Flow [element tag cs as ns] ([tag].filter Tag.isLandmark ++ marks) := by
  refine flow_element ?_ (proper_box (.inl ht) ho hc ha h) h
  rintro rfl
  cases ht

/-- A list holds items and any other collection holds anything else. -/
theorem flow_collection {α : Type} {xs : List α} {f : α → Node} (ht : tag = .ul ∨ tag = .div)
    (ho : cs.any Class.isOptional = false) (hx : xs ≠ []) (hf : ∀ x ∈ xs, (f x).Inside)
    (hi : ∀ x, (f x).tag? = some .li ↔ tag = .ul) :
    Flow [element tag cs [] (xs.map f)] [] := by
  have hp : Proper tag cs [] (xs.map f) := by
    refine proper_element ?_ ?_ ho (by simp) (by simp [hx]) ?_
    · rcases ht with rfl | rfl <;> rfl
    · rcases ht with rfl | rfl <;> simp
    · simpa using fun x _ => hi x
  have hin : (element tag cs [] (xs.map f)).Inside := by
    refine inside_element ?_ hp (by simpa using hf)
    rcases ht with rfl | rfl <;> rfl
  refine Flow.of_inside (List.forall_mem_singleton.mpr ⟨hin, ?_⟩)
  rcases ht with rfl | rfl <;> simp [tag?]

end Element

end Node

theorem Job.isBlank_of_duration {job : Job} {s : String} (h : job.duration = some s) :
    Text.isBlank s = false := by
  obtain ⟨start, hs, rfl⟩ := Option.map_eq_some_iff.mp h
  have hstart : start.toList.all Text.isSpace = false := (Text.nonBlank_eq_some_iff.mp hs).2
  simp [Text.isBlank, String.toList_append, List.all_append, hstart]

namespace Fragment

open Node (element text Proper Inside Flow proper_leaf proper_empty proper_box inside_element
  flow_text flow_element flow_box flow_collection)

theorem inside_labelled {tag : Tag} (ht : tag.isPhrase = true ∨ tag = .div ∨ tag = .li)
    (hl : tag.isLandmark = false) {c : Class} {s : String}
    (hs : c.isOptional = true → Text.isBlank s = false) : (labelled tag c s).Inside := by
  have hp : Proper tag [c] [] [text s] := proper_leaf ht (by simpa using hs) (by simp)
  exact inside_element hl hp (flow_text s).inside

theorem flow_labelled {tag : Tag} (ht : tag.isPhrase = true) {c : Class} {s : String}
    (hs : c.isOptional = true → Text.isBlank s = false) :
    Flow [labelled tag c s] ([tag].filter Tag.isLandmark) := by
  have hli : tag ≠ .li := by
    rintro rfl
    cases ht
  have hp : Proper tag [c] [] [text s] := proper_leaf (.inl ht) (by simpa using hs) (by simp)
  have h := flow_element hli hp (flow_text s)
  rwa [List.append_nil] at h

/-- Some texts are shown even if they are blank. -/
theorem flow_required {tag : Tag} (ht : tag.isPhrase = true) {c : Class}
    (hc : c.isOptional = false) (s : String) :
    Flow [labelled tag c s] ([tag].filter Tag.isLandmark) :=
  flow_labelled ht (by simp [hc])

/-- A field that is shown is not blank. -/
theorem flow_labelled? {tag : Tag} (ht : tag.isPhrase = true) (hl : tag.isLandmark = false)
    (c : Class) (field : Option String) : Flow (labelled? tag c field) [] := by
  unfold labelled?
  cases hf : Text.nonBlank field with
  | none => exact .nil
  | some s =>
    have h := flow_labelled (c := c) ht fun _ => (Text.nonBlank_eq_some_iff.mp hf).2
    simpa [hl] using h

/-! ## The header -/

theorem flow_avatar (r : Resume) : Flow [avatar r] [] := by
  unfold avatar
  split
  · rename_i source hs
    have hp : Proper .img [.avatar] [("src", source), ("alt", r.primaryName)] [] :=
      proper_empty (by simp) rfl rfl (by simpa using (Text.nonBlank_eq_some_iff.mp hs).2)
    exact flow_element (by simp) hp .nil
  · have hp : Proper .div [.avatar, .avatarInitials] [("aria-hidden", "true")]
        [text r.initials] :=
      proper_leaf (.inr (.inl rfl)) (by simp [Class.isOptional]) (by simp)
    exact flow_element (by simp) hp (flow_text _)

theorem flow_contact (r : Resume) : Flow (contact r) [] := by
  simp only [contact]
  split
  · exact .nil
  · rename_i hne
    refine flow_collection (.inr rfl) rfl (by simpa using hne) ?_ ?_
    · intro s hs
      obtain ⟨field, -, hf⟩ := List.mem_filterMap.mp hs
      exact inside_labelled (.inl rfl) rfl fun _ => (Text.nonBlank_eq_some_iff.mp hf).2
    · simp [labelled, Node.tag?]

theorem flow_identity (layout : HeaderLayout) (r : Resume) {below : List Node}
    (hb : Flow below []) : Flow [identity layout r below] [.h1] := by
  have htitle : Flow (if layout.showTitle then labelled? .p .title r.title else []) [] := by
    split
    · exact flow_labelled? rfl rfl _ _
    · exact .nil
  have hname : Flow [labelled .h1 .name r.primaryName] [.h1] := flow_required rfl rfl _
  exact flow_box rfl rfl rfl (by simp) (hname.cons (htitle.append hb))

theorem flow_header (layout : HeaderLayout) (r : Resume) :
    Flow [header layout r] [.header, .h1] := by
  have havatar : Flow (if layout.showAvatar then [avatar r] else []) [] := by
    split
    · exact flow_avatar r
    · exact .nil
  have hrest : Flow (if layout.style = .split then identity layout r [] :: contact r
      else [identity layout r (contact r)]) [.h1] := by
    split
    · exact (flow_identity layout r .nil).cons (flow_contact r)
    · exact flow_identity layout r (flow_contact r)
  exact flow_box rfl rfl rfl (by simp) (havatar.append hrest)

/-! ## The sections -/

theorem inside_skillItem (style : SkillsStyle) (skill : Skill) :
    (skillItem style skill).Inside := by
  have hleaf {tag : Tag} (ht : tag.isPhrase = true ∨ tag = .div ∨ tag = .li)
      (hl : tag.isLandmark = false) :
      (element tag [.skill, .skillVariant style] [] [text skill.name]).Inside :=
    inside_element hl (proper_leaf ht (by simp [Class.isOptional]) (by simp)) (flow_text _).inside
  cases style with
  | bars =>
    have hlabel : Flow [labelled .span .skillLabel skill.name] [] := flow_required rfl rfl _
    have hfill (width : String) :
        Flow [element .div [.skillFill] [("style", width)] []] [] :=
      flow_box rfl rfl rfl (by simp) .nil
    have htrack (width : String) :
        Flow [element .div [.skillTrack] [] [element .div [.skillFill] [("style", width)] []]] [] :=
      flow_box rfl rfl rfl (by simp) (hfill width)
    exact (flow_box rfl rfl rfl (by simp) (hlabel.cons (htrack _))).inside _ List.mem_cons_self
  | chips => exact hleaf (.inl rfl) rfl
  | list => exact hleaf (.inr (.inr rfl)) rfl
  | grid => exact hleaf (.inr (.inl rfl)) rfl

theorem flow_skills (style : SkillsStyle) {items : List Skill} (hne : items ≠ []) :
    Flow [skills style items] [] := by
  refine flow_collection ?_ rfl hne (fun skill _ => inside_skillItem style skill) ?_
  · split <;> simp
  · intro skill
    cases style <;> simp [skillItem, Node.tag?]

theorem flow_jobHeader (style : ExperienceStyle) (job : Job) : Flow [jobHeader style job] [] := by
  have htitle : Flow [labelled .h3 .jobTitle job.title] [] := flow_required rfl rfl _
  have hcompany : Flow [labelled .span .company job.company] [] := flow_required rfl rfl _
  have hduration : Flow (job.duration.toList.map (labelled .span .duration)) [] := by
    cases hd : job.duration with
    | none => exact .nil
    | some s => exact flow_labelled rfl fun _ => Job.isBlank_of_duration hd
  have hlocation : Flow (if style = .detailed then labelled? .span .jobLocation job.location
      else []) [] := by
    split
    · exact flow_labelled? rfl rfl _ _
    · exact .nil
  exact flow_box rfl rfl rfl (by simp)
    (((htitle.cons hcompany).append hduration).append hlocation)

theorem flow_responsibilities (job : Job) : Flow (responsibilities job) [] := by
  simp only [responsibilities]
  split
  · exact .nil
  · rename_i hne
    refine flow_collection (.inl rfl) rfl (by simpa using hne) ?_ ?_
    · intro s hs
      exact inside_labelled (.inr (.inr rfl)) rfl fun _ => by simpa using (List.mem_filter.mp hs).2
    · simp [labelled, Node.tag?]

theorem flow_jobItem (style : ExperienceStyle) (job : Job) : Flow [jobItem style job] [] := by
  have hmarker : Flow (if style = .timeline
      then [element .span [.experienceMarker] [("aria-hidden", "true")] []] else []) [] := by
    split
    · have hp : Proper .span [.experienceMarker] [("aria-hidden", "true")] [] :=
        proper_empty (by simp) rfl rfl (by simp)
      exact flow_element (by simp) hp .nil
    · exact .nil
  exact flow_box rfl rfl rfl (by simp)
    (hmarker.append ((flow_jobHeader style job).cons (flow_responsibilities job)))

theorem flow_experience (style : ExperienceStyle) {jobs : List Job} (hne : jobs ≠ []) :
    Flow [experience style jobs] [] := by
  refine flow_collection (.inr rfl) rfl hne ?_ ?_
  · intro job _
    exact (flow_jobItem style job).inside _ List.mem_cons_self
  · simp [jobItem, Node.tag?]

theorem inside_educationItem (style : EducationStyle) (entry : Education) :
    (educationItem style entry).Inside := by
  have hdegree :
      Flow [labelled (if style = .list then .span else .h3) .degree entry.degree] [] := by
    split <;> exact flow_required rfl rfl _
  have hinstitution : Flow [labelled .span .institution entry.institution] [] :=
    flow_required rfl rfl _
  have hyear : Flow (labelled? .span .year entry.year) [] := flow_labelled? rfl rfl _ _
  have hflow := hdegree.cons (hinstitution.cons hyear)
  refine inside_element (by split <;> rfl)
    (proper_box (by split <;> simp [Tag.isBox]) rfl rfl (by simp) hflow) hflow.inside

theorem flow_education (style : EducationStyle) {entries : List Education} (hne : entries ≠ []) :
    Flow [education style entries] [] := by
  refine flow_collection ?_ rfl hne (fun entry _ => inside_educationItem style entry) ?_
  · split <;> simp
  · intro entry
    by_cases hs : style = .list <;> simp [educationItem, Node.tag?, hs]

variable {sections : SectionsLayout} {r : Resume}

/-- A section that is there at all has something to show. -/
theorem flow_sectionBody {kind : SectionKind} {body : Node}
    (h : sectionBody? sections r kind = some body) :
    Flow [body] [] ∧ kind.collection ∈ body.classes := by
  cases kind with
  | skills =>
    obtain ⟨hne, rfl⟩ : r.skills ≠ [] ∧ skills sections.skills.style r.skills = body := by
      simpa [sectionBody?] using h
    exact ⟨flow_skills _ hne, List.mem_cons_self⟩
  | experience =>
    obtain ⟨hne, rfl⟩ : r.jobs ≠ [] ∧ experience sections.experience.style r.jobs = body := by
      simpa [sectionBody?] using h
    exact ⟨flow_experience _ hne, List.mem_cons_self⟩
  | education =>
    obtain ⟨hne, rfl⟩ : r.educations ≠ [] ∧
        education sections.education.style r.educations = body := by
      simpa [sectionBody?] using h
    exact ⟨flow_education _ hne, List.mem_cons_self⟩

theorem flow_section {kind : SectionKind} {s : Node} (h : section? sections r kind = some s) :
    Flow [s] [] := by
  obtain ⟨body, hb, rfl⟩ := Option.map_eq_some_iff.mp h
  obtain ⟨hbody, hclass⟩ := flow_sectionBody hb
  have hflow : Flow [labelled .h2 .sectionTitle kind.heading, body] [] :=
    (flow_required rfl rfl _).cons hbody
  have hfilled : body.children ≠ [] := by
    refine hbody.children_ne_nil hclass ?_
    cases kind <;> rfl
  have hp : Proper .section [.section, .sectionVariant kind] []
      [labelled .h2 .sectionTitle kind.heading, body] :=
    { items := fun n hn => iff_of_false (hflow.notItem n hn) (by simp)
      phrase := by simp [Tag.isPhrase]
      titled := fun _ => ⟨kind, body, by simp, rfl, hclass, hfilled⟩
      filled := by simp
      shown := by simp [Class.isOptional]
      source := by simp }
  exact flow_element (by simp) hp hflow

theorem flow_sectionsOf (kinds : List SectionKind) : Flow (sectionsOf sections r kinds) [] := by
  apply Flow.of_inside
  intro s hs
  obtain ⟨kind, -, hk⟩ := List.mem_filterMap.mp hs
  have h := flow_section hk
  exact ⟨h.inside s List.mem_cons_self, h.notItem s List.mem_cons_self⟩

/-! ## The content -/

theorem flow_column (side : Side) (kinds : List SectionKind) :
    Flow (column sections r side kinds) [] := by
  unfold column
  split
  · exact .nil
  · exact flow_box rfl rfl rfl (by simp) (flow_sectionsOf kinds)

theorem flow_grid : Flow (grid sections r) [] := by
  simp only [grid]
  split
  · exact flow_box rfl (by cases sections.columns.isTwoColumn <;> rfl)
      (by cases sections.columns.isTwoColumn <;> rfl) (by simp)
      ((flow_column _ _).append (flow_column _ _))
  · exact .nil

theorem flow_fullWidth : Flow (fullWidth sections r) [] := by
  simp only [fullWidth]
  split
  · exact .nil
  · exact flow_box rfl rfl rfl (by simp) (flow_sectionsOf _)

theorem flow_content : Flow [content sections r] [.main] :=
  flow_box rfl rfl rfl (by simp) (flow_grid.append flow_fullWidth)

end Fragment

namespace Layout

open Fragment

theorem flow_fragment (layout : Layout) (r : Resume) :
    Node.Flow [layout.fragment r] [.header, .h1, .main] :=
  Node.flow_box rfl rfl rfl (by simp)
    ((flow_header layout.header r).cons
      ((flow_labelled? rfl rfl .summary r.summary).append flow_content))

/-- Elements of a fragment hold what HTML lets them hold and what they are there for, every item
stands in a list, and the landmarks of a page are there once each. -/
theorem fragment_proper (layout : Layout) (r : Resume) :
    (∀ e ∈ (layout.fragment r).walk, e.IsApart ∧ e.IsProper) ∧
      (∀ above e, (above, e) ∈ (layout.fragment r).locate [] → e.tag? = some .li →
        ∃ parent rest, above = parent :: rest ∧ parent.tag? = some .ul) ∧
      (layout.fragment r).landmarks = [.header, .h1, .main] := by
  have hflow := layout.flow_fragment r
  have hproper : ∀ e ∈ (layout.fragment r).walk, e.IsProper :=
    hflow.proper _ List.mem_cons_self
  refine ⟨fun e he => ⟨(keepsApart_fragment layout r).2 e he, hproper e he⟩, ?_, ?_⟩
  · intro above e he hli
    rcases Node.exists_parent_of_mem_locate _ he with ⟨-, rfl⟩ | ⟨p, rest, hp, hw, hm⟩
    · exact absurd hli (hflow.notItem _ List.mem_cons_self)
    · exact ⟨p, rest, hp, (hproper p hw).tag_eq_ul hm hli⟩
  · have hmarks := hflow.landmarks
    rwa [List.flatMap_singleton] at hmarks

end Layout

end Vitae

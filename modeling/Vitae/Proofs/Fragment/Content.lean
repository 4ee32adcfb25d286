import Mathlib.Data.List.Basic
import Vitae.Fragment
import Vitae.Proofs.Markup.Walk

/-! # The texts of a fragment

What a reader finds on a page, written down without any markup: every text of the résumé that is not
blank, in the order of its section, and nothing else. A template decides about four things only,
which parts of the header are shown, whether jobs have their place, and where the sections stand. -/

namespace Vitae

/-- What a template decides about the texts of a page. -/
structure Reading where
  showAvatar : Bool
  showTitle : Bool
  showPlaces : Bool
  position : SectionKind → Position

def Layout.reading (layout : Layout) : Reading where
  showAvatar := layout.header.showAvatar
  showTitle := layout.header.showTitle
  showPlaces := layout.sections.experience.style = .detailed
  position := layout.sections.position

/-- The sections as they are read, one column after the other. -/
def Reading.order (reading : Reading) : List SectionKind :=
  [.left, .right, .fullWidth].flatMap fun p =>
    [.skills, .experience, .education].filter (reading.position · = p)

/-- A field's text, unless there is none or nothing but white space. -/
def given : Option String → List String
  | none => []
  | some s => if s.toList.all Text.isSpace then [] else [s]

/-- What stands between white space. -/
def wordsOf (s : String) : List (List Char) :=
  (s.toList.splitOnP Text.isSpace).filter (!·.isEmpty)

def Job.period (job : Job) : List String :=
  (given job.startDate).map fun start => start ++ " – " ++ (given job.endDate).headD "Present"

def Job.texts (showPlaces : Bool) (job : Job) : List String :=
  [job.title, job.company] ++ job.period ++ (if showPlaces then given job.location else []) ++
    job.responsibilities.flatMap (given ∘ some)

def Education.texts (entry : Education) : List String :=
  [entry.degree, entry.institution] ++ given entry.year

namespace Resume

/-- The texts of a section, entry by entry. -/
def entries (showPlaces : Bool) (r : Resume) : SectionKind → List (List String)
  | .skills => r.skills.map fun skill => [skill.name]
  | .experience => r.jobs.map (Job.texts showPlaces)
  | .education => r.educations.map Education.texts

def sectionTexts (showPlaces : Bool) (r : Resume) (kind : SectionKind) : List String :=
  if r.entries showPlaces kind = [] then []
  else kind.heading :: (r.entries showPlaces kind).flatten

/-- The first characters of the first two words of the name, in upper case. -/
def monogram (r : Resume) : String :=
  String.ofList (((wordsOf r.primaryName).take 2).flatMap fun word =>
    (word.take 1).flatMap Text.uppercase)

def headerTexts (reading : Reading) (r : Resume) : List String :=
  (if reading.showAvatar && (given r.avatar).isEmpty then [r.monogram] else []) ++
    [r.primaryName] ++ (if reading.showTitle then given r.title else []) ++
    [r.email, r.phone, r.location, r.website].flatMap given

def texts (reading : Reading) (r : Resume) : List String :=
  r.headerTexts reading ++ given r.summary ++
    reading.order.flatMap (r.sectionTexts reading.showPlaces)

end Resume

theorem toList_nonBlank (field : Option String) : (Text.nonBlank field).toList = given field := by
  cases field with
  | none => rfl
  | some s =>
    rw [given, Text.nonBlank, Option.filter_some, Text.isBlank]
    cases s.toList.all Text.isSpace <;> rfl

theorem Job.toList_duration (job : Job) : job.duration.toList = job.period := by
  have hd : (Text.nonBlank job.endDate).getD "Present" = (given job.endDate).headD "Present" := by
    rw [← toList_nonBlank]
    cases Text.nonBlank job.endDate <;> rfl
  rw [duration, period, hd, Option.toList_map, toList_nonBlank]

theorem filter_isBlank_eq_flatMap_given (ss : List String) :
    ss.filter (!Text.isBlank ·) = ss.flatMap (given ∘ some) := by
  induction ss with
  | nil => rfl
  | cons s ss ih =>
    rw [List.filter_cons, List.flatMap_cons, ih, Function.comp_apply, given, Text.isBlank]
    cases s.toList.all Text.isSpace <;> rfl

/-! ## Initials -/

/-- A word that is already open has no start in what is left of it. -/
theorem wordStarts_eq (cs : List Char) :
    Text.wordStarts false cs = (cs.splitOnP Text.isSpace).flatMap (List.take 1) ∧
      Text.wordStarts true cs = (cs.splitOnP Text.isSpace).tail.flatMap (List.take 1) := by
  induction cs with
  | nil => exact ⟨rfl, rfl⟩
  | cons c cs ih =>
    obtain ⟨hout, hin⟩ := ih
    obtain ⟨word, rest, hsplit⟩ := List.exists_cons_of_ne_nil (List.splitOnP_ne_nil Text.isSpace cs)
    rw [hsplit] at hout hin
    rw [List.splitOnP_cons_eq_if_modifyHead, hsplit, Text.wordStarts, Text.wordStarts]
    cases Text.isSpace c
    · exact ⟨congrArg (c :: ·) hin, hin⟩
    · exact ⟨hout, hout⟩

theorem flatMap_take_one_filter (pieces : List (List Char)) :
    (pieces.filter (!·.isEmpty)).flatMap (List.take 1) = pieces.flatMap (List.take 1) := by
  induction pieces with
  | nil => rfl
  | cons piece pieces ih => cases piece <;> simp [ih]

/-- As many first characters as words. -/
theorem take_flatMap_take_one {words : List (List Char)} (h : ∀ word ∈ words, word ≠ []) (n : Nat) :
    (words.flatMap (List.take 1)).take n = (words.take n).flatMap (List.take 1) := by
  induction words generalizing n with
  | nil => simp
  | cons word words ih =>
    obtain ⟨hword, hwords⟩ := List.forall_mem_cons.mp h
    obtain ⟨c, cs, rfl⟩ := List.exists_cons_of_ne_nil hword
    cases n with
    | zero => rfl
    | succ n => simp [ih hwords]

theorem Resume.initials_eq (r : Resume) : r.initials = r.monogram := by
  have hstarts : Text.wordStarts false r.primaryName.toList =
      (wordsOf r.primaryName).flatMap (List.take 1) := by
    rw [(wordStarts_eq _).1, wordsOf, flatMap_take_one_filter]
  have hwords : ∀ word ∈ wordsOf r.primaryName, word ≠ [] := by simp [wordsOf]
  rw [initials, hstarts, take_flatMap_take_one hwords, List.flatMap_assoc, monogram]

namespace Fragment

@[simp]
theorem texts_labelled (tag : Tag) (c : Class) (s : String) : (labelled tag c s).texts = [s] := by
  simp [labelled]

theorem flatMap_texts_map_labelled (tag : Tag) (c : Class) (ss : List String) :
    (ss.map (labelled tag c)).flatMap Node.texts = ss := by
  simp [List.flatMap_map]

@[simp]
theorem flatMap_texts_labelled? (tag : Tag) (c : Class) (field : Option String) :
    (labelled? tag c field).flatMap Node.texts = given field := by
  rw [labelled?, flatMap_texts_map_labelled, toList_nonBlank]

/-! ## The header -/

theorem texts_avatar (r : Resume) :
    (avatar r).texts = if (given r.avatar).isEmpty then [r.monogram] else [] := by
  rw [avatar, ← toList_nonBlank, r.initials_eq]
  cases Text.nonBlank r.avatar <;> simp

theorem flatMap_texts_contact (r : Resume) :
    (contact r).flatMap Node.texts =
      [r.email, r.phone, r.location, r.website].flatMap given := by
  have hitems : r.contactItems = [r.email, r.phone, r.location, r.website].flatMap given := by
    simp only [Resume.contactItems, List.filterMap_eq_flatMap_toList, toList_nonBlank]
  rw [← hitems, contact]
  split
  · rename_i h
    simp [List.isEmpty_iff.mp h]
  · simp only [List.flatMap_cons, List.flatMap_nil, List.append_nil, Node.texts_element,
      flatMap_texts_map_labelled]

theorem texts_identity (layout : HeaderLayout) (r : Resume) (below : List Node) :
    (identity layout r below).texts =
      r.primaryName :: ((if layout.showTitle then given r.title else []) ++
        below.flatMap Node.texts) := by
  rw [identity, Node.texts_element, List.flatMap_cons, texts_labelled, List.flatMap_append]
  split <;> simp

/-- Contact details come last, beside the identity as well as under it. -/
theorem texts_header (layout : Layout) (r : Resume) :
    (header layout.header r).texts = r.headerTexts layout.reading := by
  have havatar : (if layout.header.showAvatar then [avatar r] else []).flatMap Node.texts =
      if layout.reading.showAvatar && (given r.avatar).isEmpty then [r.monogram] else [] := by
    cases h : layout.header.showAvatar <;> simp [Layout.reading, h, texts_avatar]
  have hrest : (if layout.header.style = .split then identity layout.header r [] :: contact r
      else [identity layout.header r (contact r)]).flatMap Node.texts =
      [r.primaryName] ++ (if layout.reading.showTitle then given r.title else []) ++
        [r.email, r.phone, r.location, r.website].flatMap given := by
    rw [← flatMap_texts_contact]
    split <;> simp [texts_identity] <;> rfl
  rw [header, Node.texts_element, List.flatMap_append, havatar, hrest, Resume.headerTexts]
  simp only [List.append_assoc]

/-! ## The sections -/

theorem texts_skills (style : SkillsStyle) (items : List Skill) :
    (skills style items).texts = (items.map fun skill => [skill.name]).flatten := by
  have hi (skill : Skill) : (skillItem style skill).texts = [skill.name] := by
    cases style <;> simp [skillItem]
  rw [skills, Node.texts_element, List.flatMap_def, List.map_map]
  simp only [Function.comp_def, hi]

theorem flatMap_texts_responsibilities (job : Job) :
    (responsibilities job).flatMap Node.texts = job.responsibilities.flatMap (given ∘ some) := by
  rw [← filter_isBlank_eq_flatMap_given, responsibilities]
  split
  · rename_i h
    rw [List.isEmpty_iff.mp h]
    rfl
  · simp only [List.flatMap_cons, List.flatMap_nil, List.append_nil, Node.texts_element,
      flatMap_texts_map_labelled]

theorem texts_jobHeader (style : ExperienceStyle) (job : Job) :
    (jobHeader style job).texts =
      [job.title, job.company] ++ job.period ++
        if style = .detailed then given job.location else [] := by
  rw [jobHeader, Node.texts_element, List.flatMap_append, List.flatMap_append,
    flatMap_texts_map_labelled, Job.toList_duration]
  split <;> simp

theorem texts_jobItem (style : ExperienceStyle) (job : Job) :
    (jobItem style job).texts = job.texts (style = .detailed) := by
  rw [jobItem, Node.texts_element, List.flatMap_append, List.flatMap_cons, texts_jobHeader,
    flatMap_texts_responsibilities, Job.texts]
  split <;> simp

theorem texts_experience (style : ExperienceStyle) (jobs : List Job) :
    (experience style jobs).texts = (jobs.map (Job.texts (style = .detailed))).flatten := by
  rw [experience, Node.texts_element, List.flatMap_def, List.map_map]
  simp only [Function.comp_def, texts_jobItem]

theorem texts_education (style : EducationStyle) (entries : List Education) :
    (education style entries).texts = (entries.map Education.texts).flatten := by
  have he (entry : Education) : (educationItem style entry).texts = entry.texts := by
    simp [educationItem, Education.texts]
  rw [education, Node.texts_element, List.flatMap_def, List.map_map]
  simp only [Function.comp_def, he]

/-- The body of a section, there only if it has an entry. -/
theorem map_texts_ite {α : Type} (items : List α) (f : α → List String) {body : Node}
    (h : body.texts = (items.map f).flatten) :
    (if items.isEmpty then none else some body).map Node.texts =
      if items.map f = [] then none else some (items.map f).flatten := by
  simp only [List.isEmpty_iff, List.map_eq_nil_iff]
  split
  · rfl
  · rw [Option.map_some, h]

theorem map_texts_sectionBody? (layout : Layout) (r : Resume) (kind : SectionKind) :
    (sectionBody? layout.sections r kind).map Node.texts =
      if r.entries layout.reading.showPlaces kind = [] then none
      else some (r.entries layout.reading.showPlaces kind).flatten := by
  cases kind with
  | skills => exact map_texts_ite _ _ (texts_skills _ _)
  | experience => exact map_texts_ite _ _ (texts_experience _ _)
  | education => exact map_texts_ite _ _ (texts_education _ _)

/-- A section is left out where it has no entry. -/
theorem flatMap_texts_section? (layout : Layout) (r : Resume) (kind : SectionKind) :
    (section? layout.sections r kind).toList.flatMap Node.texts =
      r.sectionTexts layout.reading.showPlaces kind := by
  have hb := map_texts_sectionBody? layout r kind
  rw [section?, Resume.sectionTexts]
  split
  · rename_i h
    rw [if_pos h, Option.map_eq_none_iff] at hb
    simp [hb]
  · rename_i h
    rw [if_neg h] at hb
    obtain ⟨body, hs, ht⟩ := Option.map_eq_some_iff.mp hb
    simp [hs, ht]

theorem flatMap_texts_sectionsOf (layout : Layout) (r : Resume) (kinds : List SectionKind) :
    (sectionsOf layout.sections r kinds).flatMap Node.texts =
      kinds.flatMap (r.sectionTexts layout.reading.showPlaces) := by
  rw [sectionsOf, List.filterMap_eq_flatMap_toList, List.flatMap_assoc]
  simp only [flatMap_texts_section?]

/-! ## The content -/

theorem flatMap_texts_column (layout : Layout) (r : Resume) (side : Side)
    (kinds : List SectionKind) :
    (column layout.sections r side kinds).flatMap Node.texts =
      kinds.flatMap (r.sectionTexts layout.reading.showPlaces) := by
  rw [column]
  split
  · rename_i h
    rw [List.isEmpty_iff.mp h]
    rfl
  · simp [flatMap_texts_sectionsOf]

/-- A grid is left out where no section stands in it. -/
theorem flatMap_texts_grid (layout : Layout) (r : Resume) :
    (grid layout.sections r).flatMap Node.texts =
      (layout.sections.columns.left ++ layout.sections.columns.right).flatMap
        (r.sectionTexts layout.reading.showPlaces) := by
  rw [grid]
  split
  · simp [flatMap_texts_column]
  · rename_i h
    obtain ⟨hl, hr⟩ : layout.sections.columns.left = [] ∧ layout.sections.columns.right = [] := by
      simpa [ColumnPlan.hasGrid] using h
    rw [hl, hr]
    rfl

theorem flatMap_texts_fullWidth (layout : Layout) (r : Resume) :
    (fullWidth layout.sections r).flatMap Node.texts =
      layout.sections.columns.fullWidth.flatMap (r.sectionTexts layout.reading.showPlaces) := by
  rw [fullWidth]
  split
  · rename_i h
    rw [List.isEmpty_iff.mp h]
    rfl
  · simp [flatMap_texts_sectionsOf]

theorem texts_content (layout : Layout) (r : Resume) :
    (content layout.sections r).texts =
      layout.reading.order.flatMap (r.sectionTexts layout.reading.showPlaces) := by
  have ho : layout.reading.order = layout.sections.columns.left ++
      layout.sections.columns.right ++ layout.sections.columns.fullWidth := by
    simp only [Reading.order, List.flatMap_cons, List.flatMap_nil, List.append_nil,
      ← List.append_assoc]
    rfl
  rw [content, Node.texts_element, List.flatMap_append, flatMap_texts_grid,
    flatMap_texts_fullWidth, ho, ← List.flatMap_append]

end Fragment

/-- A fragment says what the résumé says, in the order of the layout. -/
theorem Layout.texts_fragment (layout : Layout) (r : Resume) :
    (layout.fragment r).texts = r.texts layout.reading := by
  rw [fragment, Node.texts_element, List.flatMap_cons, List.flatMap_append, Fragment.texts_header,
    Fragment.flatMap_texts_labelled?, Resume.texts]
  simp [Fragment.texts_content]

end Vitae

import Mathlib.Data.List.Basic
import Vitae.Fragment
import Vitae.Proofs.Markup.Walk

/-! # The frame of a fragment

Containers, sections and their titles make up the frame of a page. What a résumé says is shown in
other elements, so the frame can be listed, each element with its place: first the grid, then one
container after the other with the sections in it. -/

namespace Vitae

/-- The classes of containers, sections and titles. -/
def Class.isFrame : Class → Bool
  | grid | gridSingle | column | columnSide _ | fullWidth => true
  | .section | sectionVariant _ | sectionTitle => true
  | _ => false

namespace Node

@[simp]
theorem classes_element (tag : Tag) (cs : List Class) (as : List (String × String))
    (ns : List Node) : (element tag cs as ns).classes = cs := rfl

def isFrame (n : Node) : Bool := n.classes.any Class.isFrame

/-- No element of the tree is part of a frame. -/
def Plain (n : Node) : Prop := ∀ e ∈ n.walk, e.isFrame = false

/-- The elements of the frame, each with those that it stands in. -/
def frame (above : List Node) (n : Node) : List (List Node × Node) :=
  (n.locate above).filter (·.2.isFrame)

theorem locateAll_eq_flatMap (above : List Node) (ns : List Node) :
    locateAll above ns = ns.flatMap (locate above) := by
  induction ns with
  | nil => rfl
  | cons n ns ih => rw [locateAll, ih, List.flatMap_cons]

theorem plain_text (s : String) : (text s).Plain := by
  simp [Plain]

theorem plain_element {tag : Tag} {cs : List Class} {as : List (String × String)}
    {ns : List Node} (hc : cs.any Class.isFrame = false) (hn : ∀ n ∈ ns, n.Plain) :
    (element tag cs as ns).Plain :=
  forall_mem_walk_element.mpr ⟨hc, hn⟩

theorem frame_of_plain (above : List Node) {n : Node} (h : n.Plain) : n.frame above = [] := by
  rw [frame, List.filter_eq_nil_iff]
  rintro ⟨path, e⟩ he
  simpa using h e (mem_walk_of_mem_locate he)

theorem flatMap_frame_of_plain (above : List Node) {ns : List Node} (h : ∀ n ∈ ns, n.Plain) :
    ns.flatMap (frame above) = [] :=
  List.flatMap_eq_nil_iff.mpr fun n hn => frame_of_plain above (h n hn)

theorem frame_element (above : List Node) (tag : Tag) (cs : List Class)
    (as : List (String × String)) (ns : List Node) :
    (element tag cs as ns).frame above =
      (if cs.any Class.isFrame then [(above, element tag cs as ns)] else []) ++
        ns.flatMap (frame (element tag cs as ns :: above)) := by
  have hrest : (locateAll (element tag cs as ns :: above) ns).filter (·.2.isFrame) =
      ns.flatMap (frame (element tag cs as ns :: above)) := by
    rw [locateAll_eq_flatMap, List.filter_flatMap]
    rfl
  rw [frame, locate, List.filter_cons, hrest]
  by_cases h : cs.any Class.isFrame <;> simp [isFrame, h]

end Node

namespace Fragment

open Node (element frame plain_text plain_element)

/-! ## What is shown in the frame -/

theorem plain_labelled {c : Class} (hc : c.isFrame = false) (tag : Tag) (s : String) :
    (labelled tag c s).Plain := by
  refine plain_element (by simpa using hc) ?_
  simp [plain_text]

theorem plain_map_labelled {c : Class} (hc : c.isFrame = false) (tag : Tag) (ss : List String) :
    ∀ n ∈ ss.map (labelled tag c), n.Plain := by
  simp [plain_labelled hc]

theorem plain_labelled? {c : Class} (hc : c.isFrame = false) (tag : Tag) (field : Option String) :
    ∀ n ∈ labelled? tag c field, n.Plain :=
  plain_map_labelled hc tag _

theorem plain_avatar (r : Resume) : (avatar r).Plain := by
  unfold avatar
  split
  · exact plain_element rfl (by simp)
  · exact plain_element rfl (by simp [plain_text])

theorem plain_contact (r : Resume) : ∀ n ∈ contact r, n.Plain := by
  simp only [contact]
  split
  · simp
  · simpa using plain_element rfl (plain_map_labelled rfl _ _)

theorem plain_identity (layout : HeaderLayout) (r : Resume) {below : List Node}
    (hb : ∀ n ∈ below, n.Plain) : (identity layout r below).Plain := by
  refine plain_element rfl (List.forall_mem_cons.mpr ⟨plain_labelled rfl _ _, ?_⟩)
  refine List.forall_mem_append.mpr ⟨?_, hb⟩
  split
  · exact plain_labelled? rfl _ _
  · simp

theorem plain_header (layout : HeaderLayout) (r : Resume) : (header layout r).Plain := by
  refine plain_element rfl (List.forall_mem_append.mpr ⟨?_, ?_⟩)
  · split
    · simpa using plain_avatar r
    · simp
  · split
    · exact List.forall_mem_cons.mpr ⟨plain_identity layout r (by simp), plain_contact r⟩
    · simpa using plain_identity layout r (plain_contact r)

theorem plain_skillItem (style : SkillsStyle) (skill : Skill) : (skillItem style skill).Plain := by
  cases style with
  | bars =>
    refine plain_element rfl ?_
    simp only [List.forall_mem_cons, List.not_mem_nil, false_implies, implies_true, and_true]
    refine ⟨plain_labelled rfl _ _, plain_element rfl ?_⟩
    simpa using plain_element rfl (by simp)
  | _ => exact plain_element rfl (by simp [plain_text])

theorem plain_jobHeader (style : ExperienceStyle) (job : Job) : (jobHeader style job).Plain := by
  refine plain_element rfl (List.forall_mem_append.mpr ⟨List.forall_mem_append.mpr ⟨?_, ?_⟩, ?_⟩)
  · simp only [List.forall_mem_cons, List.not_mem_nil, false_implies, implies_true, and_true]
    exact ⟨plain_labelled rfl _ _, plain_labelled rfl _ _⟩
  · exact plain_map_labelled rfl _ _
  · split
    · exact plain_labelled? rfl _ _
    · simp

theorem plain_responsibilities (job : Job) : ∀ n ∈ responsibilities job, n.Plain := by
  simp only [responsibilities]
  split
  · simp
  · simpa using plain_element rfl (plain_map_labelled rfl _ _)

theorem plain_jobItem (style : ExperienceStyle) (job : Job) : (jobItem style job).Plain := by
  refine plain_element rfl (List.forall_mem_append.mpr ⟨?_, ?_⟩)
  · split
    · simpa using plain_element rfl (by simp)
    · simp
  · exact List.forall_mem_cons.mpr ⟨plain_jobHeader style job, plain_responsibilities job⟩

theorem plain_educationItem (style : EducationStyle) (entry : Education) :
    (educationItem style entry).Plain := by
  refine plain_element rfl (List.forall_mem_cons.mpr ⟨plain_labelled rfl _ _, ?_⟩)
  exact List.forall_mem_cons.mpr ⟨plain_labelled rfl _ _, plain_labelled? rfl _ _⟩

theorem plain_sectionBody {sections : SectionsLayout} {r : Resume} {kind : SectionKind}
    {body : Node} (h : sectionBody? sections r kind = some body) : body.Plain := by
  cases kind with
  | skills =>
    obtain ⟨-, rfl⟩ : _ ∧ skills sections.skills.style r.skills = body := by
      simpa [sectionBody?] using h
    exact plain_element rfl (by simp [plain_skillItem])
  | experience =>
    obtain ⟨-, rfl⟩ : _ ∧ experience sections.experience.style r.jobs = body := by
      simpa [sectionBody?] using h
    exact plain_element rfl (by simp [plain_jobItem])
  | education =>
    obtain ⟨-, rfl⟩ : _ ∧ education sections.education.style r.educations = body := by
      simpa [sectionBody?] using h
    exact plain_element rfl (by simp [plain_educationItem])

/-! ## The elements of the frame -/

variable (sections : SectionsLayout) (r : Resume)

def sectionTitle (kind : SectionKind) : Node := labelled .h2 .sectionTitle kind.heading

/-- A section and its title. -/
def sectionFrame (above : List Node) (kind : SectionKind) : List (List Node × Node) :=
  (section? sections r kind).toList.flatMap fun s => [(above, s), (s :: above, sectionTitle kind)]

theorem flatMap_frame_section? (above : List Node) (kind : SectionKind) :
    (section? sections r kind).toList.flatMap (frame above) =
      sectionFrame sections r above kind := by
  rw [sectionFrame, section?]
  cases hb : sectionBody? sections r kind with
  | none => rfl
  | some body =>
    simp only [Option.map_some, Option.toList_some, List.flatMap_cons, List.flatMap_nil,
      List.append_nil, Node.frame_element, Node.frame_of_plain _ (plain_sectionBody hb)]
    rfl

theorem flatMap_frame_sectionsOf (above : List Node) (kinds : List SectionKind) :
    (sectionsOf sections r kinds).flatMap (frame above) =
      kinds.flatMap (sectionFrame sections r above) := by
  rw [sectionsOf, List.filterMap_eq_flatMap_toList, List.flatMap_assoc]
  simp only [flatMap_frame_section?]

def boxClasses : Position → List Class
  | .left => [.column, .columnSide .left]
  | .right => [.column, .columnSide .right]
  | .fullWidth => [.fullWidth]

/-- The container of a position. -/
def box (p : Position) : Node :=
  element .div (boxClasses p) [] (sectionsOf sections r (sections.placedAt p))

/-- It is there if a section claims the position, with or without anything to show. -/
def boxes (p : Position) : List Node :=
  if (sections.placedAt p).isEmpty then [] else [box sections r p]

theorem flatMap_frame_boxes (above : List Node) (p : Position) :
    (boxes sections r p).flatMap (frame above) =
      (boxes sections r p).map (above, ·) ++
        (sections.placedAt p).flatMap (sectionFrame sections r (box sections r p :: above)) := by
  have hc : (boxClasses p).any Class.isFrame = true := by
    cases p <;> rfl
  have hbox : (box sections r p).frame above = (above, box sections r p) ::
      (sections.placedAt p).flatMap (sectionFrame sections r (box sections r p :: above)) := by
    rw [← flatMap_frame_sectionsOf, box, Node.frame_element, if_pos hc]
    rfl
  rw [boxes]
  split
  · rename_i h
    rw [List.isEmpty_iff.mp h]
    rfl
  · simp [hbox]

/-- The grid with both sides, which is there if either of them is. -/
def gridBox : Node :=
  element .div ([.grid] ++ Class.onlyIf (!sections.columns.isTwoColumn) [.gridSingle]) []
    (boxes sections r .left ++ boxes sections r .right)

theorem grid_eq :
    grid sections r = if sections.columns.hasGrid then [gridBox sections r] else [] := rfl

theorem flatMap_frame_grid (above : List Node) :
    (grid sections r).flatMap (frame above) =
      (grid sections r).map (above, ·) ++
        ((boxes sections r .left).flatMap (frame (gridBox sections r :: above)) ++
          (boxes sections r .right).flatMap (frame (gridBox sections r :: above))) := by
  rw [grid_eq]
  split
  · have hc : ([Class.grid] ++ Class.onlyIf (!sections.columns.isTwoColumn) [.gridSingle]).any
        Class.isFrame = true := rfl
    simp only [List.flatMap_cons, List.flatMap_nil, List.append_nil, List.map_cons, List.map_nil]
    rw [gridBox, Node.frame_element, if_pos hc, List.flatMap_append]
  · -- without a grid no section has a side, so there is no column to look into
    rename_i h
    obtain ⟨hl, hr⟩ : sections.placedAt .left = [] ∧ sections.placedAt .right = [] := by
      simpa [ColumnPlan.hasGrid, SectionsLayout.columns] using h
    simp [boxes, hl, hr]

end Fragment

open Fragment

/-- What the container of a position stands in. -/
def Layout.boxPlace (layout : Layout) (r : Resume) (p : Position) : List Node :=
  (if p = .fullWidth then [] else [gridBox layout.sections r]) ++
    [content layout.sections r, layout.fragment r]

/-- What the sections at a position stand in. -/
def Layout.sectionPlace (layout : Layout) (r : Resume) (p : Position) : List Node :=
  box layout.sections r p :: layout.boxPlace r p

theorem Layout.frame_fragment (layout : Layout) (r : Resume) :
    (layout.fragment r).frame [] =
      (grid layout.sections r).map ([content layout.sections r, layout.fragment r], ·) ++
        [.left, .right, .fullWidth].flatMap fun p =>
          (boxes layout.sections r p).map (layout.boxPlace r p, ·) ++
            (layout.sections.placedAt p).flatMap
              (sectionFrame layout.sections r (layout.sectionPlace r p)) := by
  have hcontent (above : List Node) : (content layout.sections r).frame above =
      (grid layout.sections r).flatMap (Node.frame (content layout.sections r :: above)) ++
        (boxes layout.sections r .fullWidth).flatMap
          (Node.frame (content layout.sections r :: above)) := by
    rw [content, Node.frame_element, List.flatMap_append]
    rfl
  have hpage : (layout.fragment r).frame [] =
      (content layout.sections r).frame [layout.fragment r] := by
    rw [fragment, Node.frame_element, List.flatMap_cons, List.flatMap_append,
      Node.frame_of_plain _ (plain_header layout.header r),
      Node.flatMap_frame_of_plain _ (plain_labelled? rfl _ _), List.flatMap_singleton]
    rfl
  rw [hpage, hcontent, flatMap_frame_grid]
  simp only [flatMap_frame_boxes, List.flatMap_cons, List.flatMap_nil, List.append_nil,
    List.append_assoc]
  rfl

end Vitae

import Vitae.Proofs.Fragment.Frame

/-! # Where the sections of a fragment stand

Each section with something to show stands once on the page, in the container of its position. The
containers themselves follow from the positions, so they are the same for all résumés. -/

namespace Vitae

/-- The class by which the container of a position is known. -/
def Position.container : Position → Class
  | left => .columnSide .left
  | right => .columnSide .right
  | fullWidth => .fullWidth

def Class.isContainer : Class → Bool
  | grid | gridSingle | columnSide _ | fullWidth => true
  | _ => false

def Class.sectionKind? : Class → Option SectionKind
  | sectionVariant kind => some kind
  | _ => none

namespace Node

/-- The sections in a tree, in the order in which they are read. -/
def sectionKinds (n : Node) : List SectionKind :=
  n.walk.flatMap (·.classes.filterMap Class.sectionKind?)

def isContainer (n : Node) : Bool := n.classes.any Class.isContainer

/-- The containers in a tree by their classes, in the order of their opening tags. -/
def containers (n : Node) : List (List Class) :=
  (n.walk.filter isContainer).map (·.classes.filter Class.isContainer)

end Node

/-- How many entries a résumé has for a section. -/
def Resume.entryCount (r : Resume) : SectionKind → Nat
  | .skills => r.skills.length
  | .experience => r.jobs.length
  | .education => r.educations.length

namespace SectionsLayout

/-- Some section has the position. -/
def Claims (sections : SectionsLayout) (p : Position) : Prop :=
  ∃ kind, sections.position kind = p

theorem claims_iff {sections : SectionsLayout} {p : Position} :
    sections.Claims p ↔ sections.placedAt p ≠ [] := by
  simp only [Claims, ← mem_placedAt]
  exact ⟨fun ⟨_, hk⟩ => List.ne_nil_of_mem hk, List.exists_mem_of_ne_nil _⟩

instance (sections : SectionsLayout) (p : Position) : Decidable (sections.Claims p) :=
  decidable_of_iff _ claims_iff.symm

end SectionsLayout

/-- The sections of a résumé are on the page where a layout wants them. -/
structure Placed (sections : SectionsLayout) (r : Resume) (page : Node) : Prop where
  /-- A section is left out if it has no entry, and stands there once otherwise. -/
  once (kind : SectionKind) :
    page.walk.countP (.sectionVariant kind ∈ ·.classes) = if r.entryCount kind = 0 then 0 else 1
  /-- The same goes for its title. -/
  titledOnce (kind : SectionKind) :
    page.walk.countP (fun e => .sectionTitle ∈ e.classes ∧ kind.heading ∈ e.texts) =
      if r.entryCount kind = 0 then 0 else 1
  /-- A section stands in the container of its position, and in no other. -/
  stands {kind : SectionKind} {above : List Node} {e : Node} (he : (above, e) ∈ page.locate [])
    (hc : .sectionVariant kind ∈ e.classes) (p : Position) :
    (∃ a ∈ above, p.container ∈ a.classes) ↔ sections.position kind = p
  /-- A container has the sections of its position in the order of all sections. -/
  ordered {p : Position} {e : Node} (he : e ∈ page.walk) (hc : p.container ∈ e.classes) :
    e.sectionKinds =
      [.skills, .experience, .education].filter fun kind =>
        sections.position kind = p ∧ r.entryCount kind ≠ 0
  /-- The grid opens first, then the left, the right and the full-width container, each of them if
  some section claims it. -/
  containers : page.containers =
    (if sections.Claims .left ∧ sections.Claims .right then [[.grid]]
      else if sections.Claims .left ∨ sections.Claims .right then [[.grid, .gridSingle]]
      else []) ++
      [.left, .right, .fullWidth].flatMap fun p =>
        if sections.Claims p then [[p.container]] else []
  /-- The side columns stand in the grid, and the full-width container does not. -/
  nested {p : Position} {above : List Node} {e : Node} (he : (above, e) ∈ page.locate [])
    (hc : p.container ∈ e.classes) : (∃ a ∈ above, .grid ∈ a.classes) ↔ p ≠ .fullWidth

namespace Node

theorem isFrame_of_mem {c : Class} {e : Node} (hc : c.isFrame = true) (he : c ∈ e.classes) :
    e.isFrame = true :=
  List.any_eq_true.mpr ⟨c, he, hc⟩

/-- What only elements of the frame have can be looked for in the frame. -/
theorem filter_locate_eq_filter_frame {above : List Node} {n : Node} {P : Node → Bool}
    (hP : ∀ e, P e = true → e.isFrame = true) :
    (n.locate above).filter (P ·.2) = (n.frame above).filter (P ·.2) := by
  rw [frame, List.filter_filter]
  refine List.filter_congr fun x _ => ?_
  cases h : P x.2 with
  | false => rfl
  | true => rw [hP _ h]; rfl

theorem countP_walk (above : List Node) (n : Node) (P : Node → Bool) :
    n.walk.countP P = ((n.locate above).filter (P ·.2)).length := by
  rw [← map_snd_locate above, List.countP_map, List.countP_eq_length_filter]
  rfl

theorem sectionKinds_element (tag : Tag) (cs : List Class) (as : List (String × String))
    (ns : List Node) :
    (element tag cs as ns).sectionKinds =
      cs.filterMap Class.sectionKind? ++ ns.flatMap sectionKinds := by
  rw [sectionKinds, walk_element, List.flatMap_cons, classes_element, List.flatMap_assoc]
  rfl

theorem sectionKinds_of_plain {n : Node} (h : n.Plain) : n.sectionKinds = [] := by
  refine List.flatMap_eq_nil_iff.mpr fun e he => List.filterMap_eq_nil_iff.mpr fun c hc => ?_
  cases c with
  | sectionVariant kind =>
    have hf : e.isFrame = true := isFrame_of_mem rfl hc
    rw [h e he] at hf
    cases hf
  | _ => rfl

end Node

theorem flatMap_eq_of_unique {α β : Type} {f : α → List β} {a : α} {xs : List α}
    (hn : xs.Nodup) (ha : a ∈ xs) (h : ∀ x ∈ xs, x ≠ a → f x = []) : xs.flatMap f = f a := by
  obtain ⟨ys, zs, rfl⟩ := List.append_of_mem ha
  obtain ⟨hys, hzs, hyz⟩ := List.nodup_append.mp hn
  have hy : ys.flatMap f = [] := List.flatMap_eq_nil_iff.mpr fun x hx =>
    h x (List.mem_append_left _ hx) (hyz x hx a List.mem_cons_self)
  have hz : zs.flatMap f = [] := List.flatMap_eq_nil_iff.mpr fun x hx =>
    h x (List.mem_append_right _ (List.mem_cons_of_mem _ hx)) fun he =>
      (List.nodup_cons.mp hzs).1 (he ▸ hx)
  rw [List.flatMap_append, List.flatMap_cons, hy, hz, List.append_nil, List.nil_append]

namespace Fragment

variable {sections : SectionsLayout} {r : Resume}

/-! ## Sections -/

theorem entryCount_eq_zero_iff (sections : SectionsLayout) {kind : SectionKind} :
    r.entryCount kind = 0 ↔ section? sections r kind = none := by
  cases kind <;> simp [section?, sectionBody?, Resume.entryCount]

theorem length_section? (kind : SectionKind) :
    (section? sections r kind).toList.length = if r.entryCount kind = 0 then 0 else 1 := by
  simp only [entryCount_eq_zero_iff sections]
  cases section? sections r kind <;> rfl

theorem classes_section {kind : SectionKind} {s : Node} (h : section? sections r kind = some s) :
    s.classes = [.section, .sectionVariant kind] := by
  obtain ⟨body, -, rfl⟩ := Option.map_eq_some_iff.mp h
  rfl

theorem sectionKinds_section {kind : SectionKind} {s : Node}
    (h : section? sections r kind = some s) : s.sectionKinds = [kind] := by
  obtain ⟨body, hb, rfl⟩ := Option.map_eq_some_iff.mp h
  have htitle : (sectionTitle kind).sectionKinds = [] := rfl
  rw [← sectionTitle, Node.sectionKinds_element, List.flatMap_cons, List.flatMap_cons, htitle,
    Node.sectionKinds_of_plain (plain_sectionBody hb)]
  rfl

theorem flatMap_sectionKinds_sectionsOf (kinds : List SectionKind) :
    (sectionsOf sections r kinds).flatMap Node.sectionKinds =
      kinds.filter (r.entryCount · ≠ 0) := by
  induction kinds with
  | nil => rfl
  | cons kind kinds ih =>
    rw [sectionsOf] at ih
    cases hs : section? sections r kind with
    | none =>
      rw [sectionsOf, List.filterMap_cons_none hs, ih, List.filter_cons_of_neg]
      simpa using (entryCount_eq_zero_iff sections).mpr hs
    | some s =>
      rw [sectionsOf, List.filterMap_cons_some hs, List.flatMap_cons, sectionKinds_section hs, ih,
        List.filter_cons_of_pos]
      · rfl
      · simp [entryCount_eq_zero_iff sections, hs]

theorem classes_sectionTitle (kind : SectionKind) :
    (sectionTitle kind).classes = [.sectionTitle] := rfl

theorem texts_sectionTitle (kind : SectionKind) : (sectionTitle kind).texts = [kind.heading] := rfl

theorem filter_sectionFrame_eq_nil {P : Node → Bool} {kind : SectionKind} (above : List Node)
    (hs : ∀ s, section? sections r kind = some s → P s = false)
    (ht : P (sectionTitle kind) = false) :
    (sectionFrame sections r above kind).filter (P ·.2) = [] := by
  rw [sectionFrame]
  cases h : section? sections r kind with
  | none => rfl
  | some s => simp [hs s h, ht]

/-! ## Containers -/

theorem container_mem_classes_box {p q : Position} :
    q.container ∈ (box sections r p).classes ↔ p = q := by
  change q.container ∈ boxClasses p ↔ p = q
  cases p <;> cases q <;> decide

theorem container_notMem_classes_gridBox {p : Position} :
    p.container ∉ (gridBox sections r).classes := by
  change p.container ∉ [.grid] ++ Class.onlyIf (!sections.columns.isTwoColumn) [.gridSingle]
  cases sections.columns.isTwoColumn <;> cases p <;> decide

theorem filter_classes_gridBox :
    (gridBox sections r).classes.filter Class.isContainer =
      if sections.columns.isTwoColumn then [.grid] else [.grid, .gridSingle] := by
  change ([Class.grid] ++ Class.onlyIf (!sections.columns.isTwoColumn) [.gridSingle]).filter _ = _
  cases sections.columns.isTwoColumn <;> rfl

end Fragment

namespace Layout

open Fragment

variable {layout : Layout} {r : Resume}

theorem filter_locate_fragment (layout : Layout) (r : Resume) {P : Node → Bool}
    (hframe : ∀ e, P e = true → e.isFrame = true) :
    ((layout.fragment r).locate []).filter (P ·.2) =
      ((grid layout.sections r).filter P).map
          ([content layout.sections r, layout.fragment r], ·) ++
        [.left, .right, .fullWidth].flatMap fun p =>
          ((boxes layout.sections r p).filter P).map (layout.boxPlace r p, ·) ++
            (layout.sections.placedAt p).flatMap fun k =>
              (sectionFrame layout.sections r (layout.sectionPlace r p) k).filter (P ·.2) := by
  rw [Node.filter_locate_eq_filter_frame hframe, frame_fragment]
  simp only [List.filter_append, List.filter_map, List.filter_flatMap]
  rfl

/-- What is peculiar to one section is found where this section stands. -/
theorem filter_locate_section {P : Node → Bool} (kind : SectionKind)
    (hframe : ∀ e, P e = true → e.isFrame = true)
    (hgrid : P (gridBox layout.sections r) = false)
    (hbox : ∀ p, P (box layout.sections r p) = false)
    (hs : ∀ k s, k ≠ kind → section? layout.sections r k = some s → P s = false)
    (ht : ∀ k, k ≠ kind → P (sectionTitle k) = false) :
    ((layout.fragment r).locate []).filter (P ·.2) =
      (sectionFrame layout.sections r (layout.sectionPlace r (layout.sections.position kind))
        kind).filter (P ·.2) := by
  have hother (k : SectionKind) (hk : k ≠ kind) (above : List Node) :
      (sectionFrame layout.sections r above k).filter (P ·.2) = [] :=
    filter_sectionFrame_eq_nil above (fun s => hs k s hk) (ht k hk)
  have hg : (grid layout.sections r).filter P = [] := by
    rw [grid_eq]
    split <;> simp [hgrid]
  have hb (p : Position) : (boxes layout.sections r p).filter P = [] := by
    rw [boxes]
    split <;> simp [hbox]
  have hp : layout.sections.position kind ∈ [Position.left, .right, .fullWidth] := by
    cases layout.sections.position kind <;> decide
  rw [filter_locate_fragment layout r hframe, hg]
  simp only [hb, List.map_nil, List.nil_append]
  -- only the position of the section has anything, and there only the section itself
  rw [flatMap_eq_of_unique (by decide) hp,
    flatMap_eq_of_unique _ (SectionsLayout.mem_placedAt.mpr rfl)]
  · exact fun k _ hk => hother k hk _
  · exact .filter _ (by decide)
  · intro p _ hp
    refine List.flatMap_eq_nil_iff.mpr fun k hk => hother k ?_ _
    rintro rfl
    exact hp (SectionsLayout.mem_placedAt.mp hk).symm

theorem filter_locate_sectionVariant (kind : SectionKind) :
    ((layout.fragment r).locate []).filter (.sectionVariant kind ∈ ·.2.classes) =
      (section? layout.sections r kind).toList.map
        (layout.sectionPlace r (layout.sections.position kind), ·) := by
  rw [filter_locate_section (P := fun e => .sectionVariant kind ∈ e.classes) kind]
  · rw [sectionFrame]
    cases h : section? layout.sections r kind with
    | none => rfl
    | some s => simp [classes_section h, classes_sectionTitle]
  · exact fun e he => Node.isFrame_of_mem rfl (of_decide_eq_true he)
  · simp [gridBox, Class.onlyIf]
  · rintro (_ | _ | _) <;> rfl
  · intro k s hk h
    simp [classes_section h, Ne.symm hk]
  · intro k _
    simp [classes_sectionTitle]

theorem length_filter_locate_title (kind : SectionKind) :
    (((layout.fragment r).locate []).filter fun x =>
      .sectionTitle ∈ x.2.classes ∧ kind.heading ∈ x.2.texts).length =
      (section? layout.sections r kind).toList.length := by
  rw [filter_locate_section (P := fun e => .sectionTitle ∈ e.classes ∧ kind.heading ∈ e.texts)
    kind]
  · rw [sectionFrame]
    cases h : section? layout.sections r kind with
    | none => rfl
    | some s => simp [classes_section h, classes_sectionTitle, texts_sectionTitle]
  · exact fun e he => Node.isFrame_of_mem rfl (of_decide_eq_true he).1
  · simp [gridBox, Class.onlyIf]
  · rintro (_ | _ | _) <;> rfl
  · intro k s _ h
    simp [classes_section h]
  · intro k hk
    cases k <;> cases kind <;> first | exact absurd rfl hk | decide

theorem filter_locate_isContainer (layout : Layout) (r : Resume) :
    ((layout.fragment r).locate []).filter (·.2.isContainer) =
      (grid layout.sections r).map ([content layout.sections r, layout.fragment r], ·) ++
        [.left, .right, .fullWidth].flatMap fun p =>
          (boxes layout.sections r p).map (layout.boxPlace r p, ·) := by
  have hframe (e : Node) (he : e.isContainer = true) : e.isFrame = true := by
    obtain ⟨c, hc, hcontainer⟩ := List.any_eq_true.mp he
    refine Node.isFrame_of_mem ?_ hc
    cases c <;> first | rfl | cases hcontainer
  have hg : (grid layout.sections r).filter Node.isContainer = grid layout.sections r := by
    rw [grid_eq]
    split <;> rfl
  have hb (p : Position) :
      (boxes layout.sections r p).filter Node.isContainer = boxes layout.sections r p := by
    rw [boxes]
    cases p <;> split <;> rfl
  have hs (above : List Node) (kinds : List SectionKind) :
      (kinds.flatMap fun k => (sectionFrame layout.sections r above k).filter
        (·.2.isContainer)) = [] := by
    refine List.flatMap_eq_nil_iff.mpr fun k _ => filter_sectionFrame_eq_nil above ?_ rfl
    intro s hs
    rw [Node.isContainer, classes_section hs]
    rfl
  rw [filter_locate_fragment layout r hframe, hg]
  simp only [hb, hs, List.append_nil]

/-- A container that carries the class of a position is the one of this position, in its place. -/
theorem eq_box_of_mem_locate {p : Position} {above : List Node} {e : Node}
    (he : (above, e) ∈ (layout.fragment r).locate []) (hc : p.container ∈ e.classes) :
    above = layout.boxPlace r p ∧ e = box layout.sections r p := by
  have hcontainer : e.isContainer = true :=
    List.any_eq_true.mpr ⟨p.container, hc, by cases p <;> rfl⟩
  have hmem : (above, e) ∈ ((layout.fragment r).locate []).filter (·.2.isContainer) :=
    List.mem_filter.mpr ⟨he, hcontainer⟩
  rw [filter_locate_isContainer, List.mem_append] at hmem
  rcases hmem with hg | hb
  · rw [grid_eq] at hg
    split at hg
    · obtain ⟨-, rfl⟩ : _ ∧ e = gridBox layout.sections r := by simpa using hg
      exact absurd hc container_notMem_classes_gridBox
    · cases hg
  · obtain ⟨q, -, hq⟩ := List.mem_flatMap.mp hb
    rw [boxes] at hq
    split at hq
    · cases hq
    · obtain ⟨rfl, rfl⟩ : above = layout.boxPlace r q ∧ e = box layout.sections r q := by
        simpa using hq
      rw [container_mem_classes_box.mp hc]
      exact ⟨rfl, rfl⟩

theorem exists_container_iff {p q : Position} :
    (∃ a ∈ layout.sectionPlace r p, q.container ∈ a.classes) ↔ p = q := by
  rw [sectionPlace, List.exists_mem_cons_iff, container_mem_classes_box, or_iff_left]
  -- nothing around the container has the class of a position
  rintro ⟨a, ha, hc⟩
  simp only [boxPlace, List.mem_append, List.mem_cons, List.not_mem_nil, or_false] at ha
  rcases ha with hg | rfl | rfl
  · split at hg
    · cases hg
    · cases List.mem_singleton.mp hg
      exact container_notMem_classes_gridBox hc
  · cases q <;> simp [content, Position.container] at hc
  · cases q <;> simp [fragment, Position.container] at hc

theorem exists_grid_iff {p : Position} :
    (∃ a ∈ layout.boxPlace r p, .grid ∈ a.classes) ↔ p ≠ .fullWidth := by
  by_cases hp : p = .fullWidth <;> simp [boxPlace, hp, gridBox, content, fragment]

theorem sectionKinds_box (p : Position) :
    (box layout.sections r p).sectionKinds =
      [.skills, .experience, .education].filter fun kind =>
        layout.sections.position kind = p ∧ r.entryCount kind ≠ 0 := by
  have hc : (boxClasses p).filterMap Class.sectionKind? = [] := by
    cases p <;> rfl
  rw [box, Node.sectionKinds_element, hc, flatMap_sectionKinds_sectionsOf, List.nil_append,
    SectionsLayout.placedAt, List.filter_filter]
  refine List.filter_congr fun kind _ => ?_
  simp [and_comm]

theorem containers_fragment (layout : Layout) (r : Resume) :
    (layout.fragment r).containers =
      (if layout.sections.Claims .left ∧ layout.sections.Claims .right then [[.grid]]
        else if layout.sections.Claims .left ∨ layout.sections.Claims .right then
          [[.grid, .gridSingle]]
        else []) ++
        [.left, .right, .fullWidth].flatMap fun p =>
          if layout.sections.Claims p then [[p.container]] else [] := by
  have hgrid : (grid layout.sections r).map (·.classes.filter Class.isContainer) =
      if layout.sections.Claims .left ∧ layout.sections.Claims .right then [[.grid]]
      else if layout.sections.Claims .left ∨ layout.sections.Claims .right then
        [[.grid, .gridSingle]]
      else [] := by
    rw [grid_eq, apply_ite (List.map _), List.map_singleton, filter_classes_gridBox]
    by_cases hl : layout.sections.placedAt .left = [] <;>
      by_cases hr : layout.sections.placedAt .right = [] <;>
      simp [SectionsLayout.claims_iff, ColumnPlan.hasGrid, ColumnPlan.isTwoColumn,
        SectionsLayout.columns, hl, hr]
  have hboxes (p : Position) :
      (boxes layout.sections r p).map (·.classes.filter Class.isContainer) =
        if layout.sections.Claims p then [[p.container]] else [] := by
    rw [boxes]
    simp only [SectionsLayout.claims_iff, List.isEmpty_iff, ite_not]
    split
    · rfl
    · cases p <;> rfl
  rw [Node.containers, ← Node.map_snd_locate [], List.filter_map, Function.comp_def,
    filter_locate_isContainer, List.map_append, List.map_append, List.map_flatMap,
    List.map_flatMap]
  simp only [List.map_map, Function.comp_def, hgrid, hboxes]

/-- Every section of a fragment has its place, and every place its container. -/
theorem placed_fragment (layout : Layout) (r : Resume) :
    Placed layout.sections r (layout.fragment r) where
  once kind := by
    rw [Node.countP_walk [], filter_locate_sectionVariant, List.length_map, length_section?]
  titledOnce kind := by
    rw [Node.countP_walk [], length_filter_locate_title, length_section?]
  stands {kind above e} he hc p := by
    have hmem : (above, e) ∈ ((layout.fragment r).locate []).filter
        (.sectionVariant kind ∈ ·.2.classes) :=
      List.mem_filter.mpr ⟨he, decide_eq_true hc⟩
    rw [filter_locate_sectionVariant] at hmem
    obtain ⟨s, -, hs⟩ := List.mem_map.mp hmem
    cases hs
    exact exists_container_iff
  ordered {p e} he hc := by
    obtain ⟨above, hl⟩ := Node.exists_mem_locate he
    rw [(eq_box_of_mem_locate hl hc).2, sectionKinds_box]
  containers := containers_fragment layout r
  nested he hc := by
    rw [(eq_box_of_mem_locate he hc).1]
    exact exists_grid_iff

end Layout

end Vitae

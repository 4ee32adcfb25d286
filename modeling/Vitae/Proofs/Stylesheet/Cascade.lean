import Vitae.Proofs.Stylesheet.Selection
import Vitae.Proofs.Stylesheet.Vocabulary

/-! # Resets and classes

Which rule a browser obeys when a reset and the rule of a class set one property of one element. A
class weighs as much as a reset of everything and comes later, so it wins; a reset of a tag weighs
more. What a class says is lost to a reset in one place only, the list style of responsibilities. -/

namespace Vitae

open Text (IsWord)

namespace Css

/-- The rule applies to the element through a selector of that weight. -/
def Applies (p : String) (above : List Node) (e : Node) (rule : RuleText) (w : ℕ ×ₗ ℕ) : Prop :=
  ∃ ss ∈ read rule.selector, Selects p above e ss ∧ weight ss = w

def Sets (rule : RuleText) (property : String) : Prop := property ∈ rule.declarations.map Prod.fst

/-- What the `j`-th rule says about a property of the element gives way to what the `i`-th says,
which weighs more, or as much and stands later. -/
def Defeats (p : String) (rules : List RuleText) (above : List Node) (e : Node) (property : String)
    (i j : ℕ) : Prop :=
  ∃ stronger weaker, rules[i]? = some stronger ∧ rules[j]? = some weaker ∧
    Sets stronger property ∧ Sets weaker property ∧
    ∃ w, Applies p above e stronger w ∧
      ∀ v, Applies p above e weaker v → v < w ∨ v = w ∧ j < i

end Css

open Css

variable {p : String} {layout : Layout} {c : Class}

/-! ## Weights -/

theorem Css.applies_text (hp : IsWord p) {above : List Node} {e : Node} {r : Rule}
    (hs : r.selectors ≠ []) {w : ℕ ×ₗ ℕ} :
    Applies p above e (r.text p) w ↔
      ∃ s ∈ r.selectors, Selects p above e (s.simples p) ∧ weight (s.simples p) = w := by
  simp [Applies, Rule.read_selector_text hp hs]

theorem Css.selects_class {above : List Node} {e : Node} :
    Selects p above e ((Selector.class c).simples p) ↔ c ∈ e.classes := by
  cases e with
  | text s => simp [Selects, Selector.simples, Simple.Holds, Node.classes]
  | element tag classes attributes children =>
    simp only [Selects, Selector.simples, Simple.Holds, HoldAbove, and_true, Node.classes]
    constructor
    · rintro ⟨d, hd, h⟩
      rwa [Class.token_injective (String.toList_injective h)]
    · exact fun hc => ⟨c, hc, rfl⟩

theorem Css.applies_class (hp : IsWord p) {above : List Node} {e : Node} {w : ℕ ×ₗ ℕ} :
    Applies p above e ((c.rule layout).text p) w ↔ c ∈ e.classes ∧ w = toLex (1, 0) := by
  rw [applies_text hp (List.cons_ne_nil _ _)]
  simp only [Class.rule, List.mem_singleton, exists_eq_left, selects_class]
  rw [eq_comm]
  rfl

/-! ## Properties -/

theorem Property.eq_standard_of_name {q : Property} {s : String} (hs : s.toList.head? ≠ some '-')
    (h : q.name p = s) : q = .standard s := by
  cases q with
  | standard name => exact congrArg _ h
  | «variable» v =>
    rw [← h, name, Variable.name] at hs
    simp at hs

def Class.properties (layout : Layout) (c : Class) : List Property :=
  (c.declarations layout).map (·.property)

/-- Which properties a class sets depends on the style of the header only. -/
theorem Class.properties_eq (layout : Layout) (c : Class) :
    c.properties layout =
      c.properties { (default : Layout) with header := ⟨layout.header.style, false, false⟩ } := by
  cases c with
  | columnSide side => cases side <;> rfl
  | _ => rfl

theorem Class.forall_properties {P : Class → List Property → Prop}
    (h : ∀ style ∈ HeaderStyle.all, ∀ c ∈ Class.all,
      P c (c.properties { (default : Layout) with header := ⟨style, false, false⟩ }))
    (layout : Layout) (c : Class) : P c (c.properties layout) := by
  rw [properties_eq]
  exact h _ (by cases layout.header.style <;> decide) c c.mem_all

/-- The properties that are reset for single tags belong to hardly any class. -/
theorem Class.mem_properties_resets (layout : Layout) (c : Class) :
    (.standard "font-family" ∈ c.properties layout → c = .resume) ∧
      (.standard "line-height" ∈ c.properties layout → c = .resume) ∧
      (.standard "list-style" ∈ c.properties layout ↔ c = .responsibilities) := by
  refine forall_properties (P := fun c ps => (_ ∈ ps → c = .resume) ∧ (_ ∈ ps → c = .resume) ∧
    (_ ∈ ps ↔ c = .responsibilities)) ?_ layout c
  decide +kernel

theorem Class.sets_text_iff {s : String} (hs : s.toList.head? ≠ some '-') :
    Sets ((c.rule layout).text p) s ↔ .standard s ∈ c.properties layout := by
  simp only [Sets, Class.rule, Rule.text, List.map_map, List.mem_map, Class.properties,
    Function.comp_apply]
  constructor
  · rintro ⟨d, hd, hn⟩
    exact ⟨d, hd, Property.eq_standard_of_name hs hn⟩
  · rintro ⟨d, hd, hq⟩
    exact ⟨d, hd, by rw [hq, Property.name]⟩

/-! ## Positions -/

namespace Layout

theorem exists_baseRule_of_getElem? {i : ℕ} {rule : RuleText} (hi : i < layout.baseRules.length)
    (h : (layout.topRules p)[i]? = some rule) : ∃ b ∈ layout.baseRules, b.text p = rule := by
  rw [topRules_eq, List.getElem?_append_left (by simpa using hi)] at h
  exact List.mem_map.mp (List.mem_of_getElem? h)

theorem class_rule_of_getElem? {j : ℕ} {rule : RuleText} (hj : (layout.topRules p)[j]? = some rule)
    (hs : rule.selector = "." ++ c.token p) :
    rule = (c.rule layout).text p ∧ layout.baseRules.length ≤ j := by
  rw [topRules_eq, List.getElem?_append] at hj
  split at hj
  · obtain ⟨b, hb, rfl⟩ := List.mem_map.mp (List.mem_of_getElem? hj)
    exact absurd hs (selector_baseRules_ne hb c p)
  · rename_i h
    obtain ⟨d, -, rfl⟩ := List.mem_map.mp (List.mem_of_getElem? hj)
    rw [Class.selector_rule_text, String.append_right_inj] at hs
    rw [Class.token_injective hs]
    exact ⟨rfl, by simpa using h⟩

end Layout

/-! ## Resets that weigh more than a class -/

theorem Tag.eq_of_toList_name {t u : Tag} (h : t.name.toList = u.name.toList) : t = u := by
  have hall : ∀ t ∈ all, ∀ u ∈ all, t.name = u.name → t = u := by decide +kernel
  exact hall t (by cases t <;> decide) u (by cases u <;> decide) (String.toList_injective h)

theorem Layout.baseRule_heavier (hp : IsWord p) {b : Rule} (hb : b ∈ layout.baseRules)
    {above : List Node} {tag : Tag} {cs : List Class} {as : List (String × String)}
    {ns : List Node} {w : ℕ ×ₗ ℕ} (ha : Applies p above (.element tag cs as ns) (b.text p) w)
    (hw : toLex (1, 0) < w) {property : String} (hs : Sets (b.text p) property) :
    tag ∈ [.h1, .h2, .h3] ∧ property ∈ ["font-family", "line-height"] ∨
      tag = .ul ∧ property = "list-style" := by
  simp only [baseRules, Rule.resets, List.mem_cons, List.not_mem_nil, or_false] at hb
  have hne : b.selectors ≠ [] := by
    rcases hb with rfl | rfl | rfl | rfl <;> exact List.cons_ne_nil _ _
  obtain ⟨s, hm, hsel, rfl⟩ := (applies_text hp hne).mp ha
  rcases hb with rfl | rfl | rfl | rfl
  · -- the root of a page weighs as much as a class, and so does everything inside one
    rw [List.mem_singleton.mp hm] at hw
    exact absurd hw (lt_irrefl _)
  · simp only [List.mem_cons, List.not_mem_nil, or_false] at hm
    rcases hm with rfl | rfl | rfl
    · exact absurd hw (lt_irrefl _)
    · exact hsel.1.elim
    · exact hsel.1.elim
  · refine .inl ⟨?_, by simpa [Sets, Rule.text, Property.name] using hs⟩
    simp only [List.mem_cons, List.not_mem_nil, or_false] at hm
    rcases hm with rfl | rfl | rfl
    all_goals
      rw [← Tag.eq_of_toList_name hsel.1]
      decide
  · refine .inr ⟨?_, by simpa [Sets, Rule.text, Property.name] using hs⟩
    rw [List.mem_singleton.mp hm] at hsel
    exact (Tag.eq_of_toList_name hsel.1).symm

/-! ## The cascade -/

theorem Part.eq_div_of_resume_mem {tag : Tag} {cs : List Class} (h : Part layout tag cs)
    (hc : .resume ∈ cs) : tag = .div := by
  cases h <;> simp_all [Class.mem_onlyIf]

theorem Part.eq_ul_of_responsibilities_mem {tag : Tag} {cs : List Class}
    (h : Part layout tag cs) (hc : .responsibilities ∈ cs) : tag = .ul := by
  cases h <;> simp_all [Class.mem_onlyIf]

theorem Part.eq_responsibilities_of_reset {tag : Tag} {cs : List Class} (h : Part layout tag cs)
    (hc : c ∈ cs) {property : String} (hs : Sets ((c.rule layout).text p) property)
    (hr : tag ∈ [.h1, .h2, .h3] ∧ property ∈ ["font-family", "line-height"] ∨
      tag = .ul ∧ property = "list-style") :
    c = .responsibilities ∧ property = "list-style" := by
  obtain ⟨hfont, hline, hlist⟩ := c.mem_properties_resets layout
  rcases hr with ⟨htag, hprop⟩ | ⟨-, rfl⟩
  · -- only the root has a font of its own, and it is no heading
    have hres : c = .resume := by
      simp only [List.mem_cons, List.not_mem_nil, or_false] at hprop
      rcases hprop with rfl | rfl
      · exact hfont ((Class.sets_text_iff (by decide)).mp hs)
      · exact hline ((Class.sets_text_iff (by decide)).mp hs)
    rw [h.eq_div_of_resume_mem (hres ▸ hc)] at htag
    exact absurd htag (by decide)
  · exact ⟨hlist.mp ((Class.sets_text_iff (by decide)).mp hs), rfl⟩

theorem Layout.fragment_mem_above {r : Resume} {above : List Node} {tag : Tag} {cs : List Class}
    {as : List (String × String)} {ns : List Node}
    (he : (above, .element tag cs as ns) ∈ (layout.fragment r).locate []) (ht : tag ≠ .div) :
    layout.fragment r ∈ above := by
  rcases Node.eq_or_mem_of_mem_locate he with ⟨-, he⟩ | h
  · exact absurd (Node.element.inj he).1 ht
  · exact h

/-- The reset of lists weighs more than the class of one. -/
theorem Layout.defeats_responsibilities (hp : IsWord p) {r : Resume} {above : List Node}
    {cs : List Class} {as : List (String × String)} {ns : List Node}
    (ha : layout.fragment r ∈ above) {j : ℕ}
    (hj : (layout.topRules p)[j]? = some ((Class.responsibilities.rule layout).text p)) :
    Defeats p (layout.topRules p) above (.element .ul cs as ns) "list-style" 3 j := by
  have hset := (Class.responsibilities.mem_properties_resets layout).2.2.mpr rfl
  refine ⟨Rule.text p ⟨[.inside .resume (.tag .ul)], [⟨"list-style", "none"⟩]⟩, _,
    by rw [topRules_eq]; rfl, hj, List.mem_singleton_self _,
    (Class.sets_text_iff (by decide)).mpr hset, toLex (1, 1), ?_, ?_⟩
  · obtain ⟨inner, outer, rfl⟩ := List.append_of_mem ha
    rw [applies_text hp (List.cons_ne_nil _ _)]
    exact ⟨_, List.mem_singleton_self _, ⟨rfl, layout.fragment r, outer, List.suffix_append _ _,
      ⟨.resume, List.mem_singleton_self _, rfl⟩, trivial⟩, rfl⟩
  · intro v hv
    rw [((applies_class hp).mp hv).2]
    exact .inl (by decide)

/-- A class gives way to a reset in the list style of responsibilities, and nowhere else. -/
theorem Layout.exists_baseRule_defeats_iff (hp : IsWord p) {r : Resume} {above : List Node}
    {e : Node} (he : (above, e) ∈ (layout.fragment r).locate []) (hc : c ∈ e.classes) {j : ℕ}
    {rule : RuleText} (hj : (layout.topRules p)[j]? = some rule)
    (hs : rule.selector = "." ++ c.token p) (property : String) :
    ((∃ i < layout.baseRules.length, Defeats p (layout.topRules p) above e property i j) ↔
        c = .responsibilities ∧ property = "list-style") ∧
      (above = [] ∧ e = layout.fragment r ∨ layout.fragment r ∈ above) := by
  have hroot := Node.eq_or_mem_of_mem_locate he
  refine ⟨?_, hroot⟩
  obtain ⟨rfl, hlen⟩ := class_rule_of_getElem? hj hs
  cases e with
  | text s => cases hc
  | element tag cs as ns =>
    have hpart : Part layout tag cs := fits_fragment layout r _ (Node.mem_walk_of_mem_locate he)
    constructor
    · rintro ⟨i, hi, stronger, weaker, hi', hj', hset, hset', w, ha, hv⟩
      rw [hj] at hj'
      cases hj'
      obtain ⟨b, hb, rfl⟩ := exists_baseRule_of_getElem? hi hi'
      have hw : toLex (1, 0) < w := by
        rcases hv _ ((applies_class hp).mpr ⟨hc, rfl⟩) with hw | ⟨-, hji⟩
        · exact hw
        · omega
      exact hpart.eq_responsibilities_of_reset hc hset' (baseRule_heavier hp hb ha hw hset)
    · rintro ⟨rfl, rfl⟩
      obtain rfl := hpart.eq_ul_of_responsibilities_mem hc
      exact ⟨3, Nat.lt_succ_self 3,
        defeats_responsibilities hp (fragment_mem_above he (by decide)) hj⟩

theorem Layout.not_exists_baseRule_defeats_neutral :
    ([], neutral.fragment {}) ∈ (neutral.fragment {}).locate [] ∧
      ¬ ∃ i < neutral.baseRules.length,
        Defeats "rt-" (neutral.topRules "rt-") [] (neutral.fragment {}) "font-family" i 4 := by
  have he : ([], neutral.fragment {}) ∈ (neutral.fragment {}).locate [] := by
    rw [fragment, Node.locate]
    exact List.mem_cons_self
  have hj : (neutral.topRules "rt-")[4]? = some ((Class.resume.rule neutral).text "rt-") := by
    rw [topRules_eq]
    rfl
  refine ⟨he, fun h => ?_⟩
  have hres := (exists_baseRule_defeats_iff (by decide) he List.mem_cons_self hj
    (Class.selector_rule_text ..) "font-family").1.mp h
  exact absurd hres.1 (by decide)

/-- Discs are asked for, and none are shown. -/
theorem Layout.neutral_responsibilities_defeated :
    ∃ above e rule,
      (above, e) ∈ (neutral.fragment { jobs := [{ responsibilities := ["R"] }] }).locate [] ∧
        .responsibilities ∈ e.classes ∧ (neutral.topRules "rt-")[37]? = some rule ∧
        rule.selector = "." ++ Class.responsibilities.token "rt-" ∧
        ("list-style", "disc") ∈ rule.declarations ∧ 3 < neutral.baseRules.length ∧
        Defeats "rt-" (neutral.topRules "rt-") above e "list-style" 3 37 := by
  have hcolumns : neutral.sections.columns = ⟨[.skills, .education], [.experience], []⟩ := by decide
  have hblank : Text.isBlank "R" = false := by decide
  have he : .element .ul [.responsibilities] [] [Fragment.labelled .li .responsibility "R"] ∈
      (neutral.fragment { jobs := [{ responsibilities := ["R"] }] }).walk := by
    simp [fragment, Fragment.content, Fragment.grid, hcolumns, ColumnPlan.hasGrid, Fragment.column,
      Fragment.sectionsOf, Fragment.section?, Fragment.sectionBody?, Fragment.experience,
      Fragment.jobItem, Fragment.responsibilities, hblank, Node.walk_element]
  obtain ⟨above, he⟩ := Node.exists_mem_locate he
  have hj : (neutral.topRules "rt-")[37]? =
      some ((Class.responsibilities.rule neutral).text "rt-") := by
    rw [topRules_eq]
    rfl
  exact ⟨above, _, _, he, List.mem_singleton_self _, hj, Class.selector_rule_text ..,
    List.mem_cons_self, by decide,
    defeats_responsibilities (by decide) (fragment_mem_above he (by decide)) hj⟩

end Vitae

import Vitae.Proofs.Fragment.Apart
import Vitae.Proofs.Markup.Compact
import Vitae.Proofs.Stylesheet.Cascade

/-! # The order of rules, and print

The rules of an element's classes stand in the stylesheet in the order in which the element names
its classes, and the rules for print stand behind them all. They weigh as much as the rule of a
class, no reset that weighs more has a say about what they set, and no two of them are about one
element. So on paper they prevail, whatever the layout. -/

namespace Vitae

open Text (IsWord)

variable {p : String} {layout : Layout} {c : Class}

/-! ## The order of classes -/

/-- Of two parts of a list without duplicates the one is part of the other if its members are. -/
theorem sublist_of_sublist {α : Type} {l l₁ l₂ : List α} (hl : l.Nodup) (h₁ : l₁.Sublist l)
    (h₂ : l₂.Sublist l) (hs : ∀ a ∈ l₁, a ∈ l₂) : l₁.Sublist l₂ := by
  induction h₁ generalizing l₂ with
  | slnil => exact List.nil_sublist _
  | @cons l₁ l a h₁ ih =>
    obtain ⟨ha, hl⟩ := List.nodup_cons.mp hl
    cases h₂ with
    | cons _ h₂ => exact ih hl h₂ hs
    | cons_cons _ h₂ =>
      refine (ih hl h₂ fun b hb => ?_).cons a
      have hne : b ≠ a := fun he => ha (he ▸ h₁.subset hb)
      exact List.mem_of_ne_of_mem hne (hs b hb)
  | @cons_cons l₁ l a h₁ ih =>
    obtain ⟨ha, hl⟩ := List.nodup_cons.mp hl
    cases h₂ with
    | cons _ h₂ => exact absurd (h₂.subset (hs a List.mem_cons_self)) ha
    | cons_cons _ h₂ =>
      refine (ih hl h₂ fun b hb => ?_).cons_cons a
      have hne : b ≠ a := fun he => ha (he ▸ h₁.subset hb)
      exact List.mem_of_ne_of_mem hne (hs b (List.mem_cons_of_mem a hb))

/-- An element names its classes in the order in which all classes are listed. -/
theorem Part.sublist_all {tag : Tag} {cs : List Class} (h : Part layout tag cs) :
    cs.Sublist Class.all := by
  cases h with
  | header => cases layout.header.style <;> decide
  | grid => cases layout.sections.columns.isTwoColumn <;> decide
  | «section» kind => cases kind <;> decide
  | skills | skill => cases layout.sections.skills.style <;> decide
  | experienceList | experience => cases layout.sections.experience.style <;> decide
  | educationList | education => cases layout.sections.education.style <;> decide
  | _ => decide

theorem Part.sublist_vocabulary {tag : Tag} {cs : List Class} (h : Part layout tag cs) :
    cs.Sublist (Class.vocabulary layout) :=
  sublist_of_sublist Class.nodup_all h.sublist_all (Class.vocabulary_sublist_all layout)
    fun c hc => Class.mem_vocabulary_iff.mpr (h.usedBy c hc)

theorem pairwise_idxOf {α : Type} [DecidableEq α] {l l₁ : List α} (hl : l.Nodup)
    (h : l₁.Sublist l) : (l₁.map l.idxOf).Pairwise (· < ·) := by
  have hall : l.Pairwise fun a b => l.idxOf a < l.idxOf b := by
    rw [List.pairwise_iff_getElem]
    intro i j hi hj hij
    rwa [hl.idxOf_getElem, hl.idxOf_getElem]
  exact List.pairwise_map.mpr (hall.sublist h)

/-! ## Positions -/

namespace Layout

/-- Where the rule of a class stands, if it has one. -/
def position (layout : Layout) (c : Class) : ℕ :=
  layout.baseRules.length + (Class.vocabulary layout).idxOf c

/-- Where the rules for print stand. -/
def printPosition (layout : Layout) : ℕ :=
  layout.baseRules.length + (Class.vocabulary layout).length

theorem stylesheet_text (layout : Layout) (p : String) :
    layout.stylesheet.text p = (layout.topRules p).map .rule ++
      [.media "print" (Rule.print.map (·.text p))] := by
  simp [topRules_eq, stylesheet, Stylesheet.text, baseRules, Block.map, Function.comp_def]

theorem length_topRules (layout : Layout) (p : String) :
    (layout.topRules p).length = layout.printPosition := by
  simp [topRules_eq, printPosition]

theorem position_lt (hc : c ∈ Class.vocabulary layout) :
    layout.position c < layout.printPosition :=
  Nat.add_lt_add_left (List.idxOf_lt_length_of_mem hc) _

theorem getElem?_position (hc : c ∈ Class.vocabulary layout) (p : String) :
    (layout.topRules p)[layout.position c]? = some ((c.rule layout).text p) := by
  rw [topRules_eq, position, List.getElem?_append_right (by simp)]
  simp [List.getElem?_idxOf hc]

/-- Only the rules that hold for every medium stand in the stylesheet by themselves. -/
theorem getElem?_text_eq_rule_iff {i : ℕ} {rule : RuleText} :
    (layout.stylesheet.text p)[i]? = some (.rule rule) ↔ (layout.topRules p)[i]? = some rule := by
  rw [stylesheet_text, List.getElem?_append]
  split
  · simp
  · rename_i hlt
    rw [List.length_map, not_lt] at hlt
    rw [List.getElem?_eq_none hlt]
    cases hi : i - ((layout.topRules p).map Block.rule).length <;> simp

theorem eq_position_of_getElem? {i : ℕ} {rule : RuleText} (hi : (layout.topRules p)[i]? = some rule)
    (hs : rule.selector = "." ++ c.token p) : i = layout.position c := by
  obtain ⟨rfl, hle⟩ := class_rule_of_getElem? hi hs
  rw [topRules_eq, List.getElem?_append_right (by simpa using hle), List.length_map,
    List.getElem?_map, Option.map_eq_some_iff] at hi
  obtain ⟨d, hd, hdc⟩ := hi
  have hsel := congrArg RuleText.selector hdc
  rw [Class.selector_rule_text, Class.selector_rule_text, String.append_right_inj] at hsel
  rw [Class.token_injective hsel, List.getElem?_eq_some_iff] at hd
  obtain ⟨hlt, hd⟩ := hd
  have hidx := (Class.nodup_vocabulary layout).idxOf_getElem _ hlt
  rw [hd] at hidx
  rw [position, hidx, Nat.add_sub_cancel' hle]

/-- The rule of a class stands at its position and nowhere else. -/
theorem exists_rule_iff (hc : c ∈ Class.vocabulary layout) {i : ℕ} :
    (∃ rule, (layout.stylesheet.text p)[i]? = some (.rule rule) ∧
      rule.selector = "." ++ c.token p) ↔ i = layout.position c := by
  simp only [getElem?_text_eq_rule_iff]
  constructor
  · rintro ⟨rule, hi, hs⟩
    exact eq_position_of_getElem? hi hs
  · intro hi
    rw [hi]
    exact ⟨_, getElem?_position hc p, c.selector_rule_text layout p⟩

end Layout

/-! ## What prevails -/

namespace Css

/-- The rules that hold in a medium, in their order. -/
def activeIn {ρ : Type} (medium : String) (blocks : List (Block ρ)) : List ρ :=
  blocks.flatMap fun
    | .rule r => [r]
    | .media query rules => if query = medium then rules else []

theorem activeIn_append {ρ : Type} (medium : String) (bs cs : List (Block ρ)) :
    activeIn medium (bs ++ cs) = activeIn medium bs ++ activeIn medium cs :=
  List.flatMap_append

theorem activeIn_map_rule {ρ : Type} (medium : String) (rules : List ρ) :
    activeIn medium (rules.map .rule) = rules := by
  rw [activeIn, List.flatMap_map]
  exact List.flatMap_singleton' rules

theorem activeIn_map {ρ σ : Type} (f : ρ → σ) (medium : String) (blocks : List (Block ρ)) :
    activeIn medium (blocks.map (Block.map f)) = (activeIn medium blocks).map f := by
  rw [activeIn, activeIn, List.flatMap_map, List.map_flatMap]
  congr 1
  funext b
  cases b with
  | rule r => rfl
  | media query rules =>
    simp only [Block.map]
    split <;> rfl

/-- The value that the cascade gives a property: no rule that applies and has a value for it weighs
more, and none of the same weight stands later. -/
def Prevails {ρ υ : Type} (applies : ρ → ℕ ×ₗ ℕ → Prop) (value? : ρ → Option υ) (rules : List ρ)
    (v : υ) : Prop :=
  ∃ (i : ℕ) (rule : ρ) (w : ℕ ×ₗ ℕ), rules[i]? = some rule ∧ applies rule w ∧
    value? rule = some v ∧ ∀ (j : ℕ) (other : ρ) (u : ℕ ×ₗ ℕ), rules[j]? = some other →
      applies other u → (value? other).isSome → u < w ∨ u = w ∧ j ≤ i

theorem Prevails.unique {ρ υ : Type} {applies : ρ → ℕ ×ₗ ℕ → Prop} {value? : ρ → Option υ}
    {rules : List ρ} {v v' : υ} (h : Prevails applies value? rules v)
    (h' : Prevails applies value? rules v') : v = v' := by
  obtain ⟨i, rule, w, hi, ha, hv, hmax⟩ := h
  obtain ⟨i', rule', w', hi', ha', hv', hmax'⟩ := h'
  have hidx : i = i' := by
    rcases hmax i' rule' w' hi' ha' (by rw [hv']; rfl) with hlt | ⟨rfl, hle⟩
    · rcases hmax' i rule w hi ha (by rw [hv]; rfl) with hlt' | ⟨rfl, -⟩
      · exact absurd hlt hlt'.asymm
      · exact absurd hlt (lt_irrefl _)
    · rcases hmax' i rule w' hi ha (by rw [hv]; rfl) with hlt' | ⟨-, hle'⟩
      · exact absurd hlt' (lt_irrefl _)
      · exact Nat.le_antisymm hle' hle
  subst hidx
  rw [hi] at hi'
  cases hi'
  rw [hv] at hv'
  exact Option.some.inj hv'

/-- Rules that are written in another form, and keep to whom they apply and what they say, settle on
the same value. -/
theorem Prevails.map {ρ σ υ τ : Type} {applies : ρ → ℕ ×ₗ ℕ → Prop} {value? : ρ → Option υ}
    {applies' : σ → ℕ ×ₗ ℕ → Prop} {value?' : σ → Option τ} {f : ρ → σ} {g : υ → τ}
    {rules : List ρ} {v : υ} (h : Prevails applies value? rules v)
    (ha : ∀ r ∈ rules, ∀ w, applies' (f r) w ↔ applies r w)
    (hv : ∀ r ∈ rules, value?' (f r) = (value? r).map g) :
    Prevails applies' value?' (rules.map f) (g v) := by
  obtain ⟨i, rule, w, hi, happ, hval, hmax⟩ := h
  have hmem := List.mem_of_getElem? hi
  refine ⟨i, f rule, w, by rw [List.getElem?_map, hi]; rfl, (ha rule hmem w).mpr happ,
    by rw [hv rule hmem, hval]; rfl, fun j other u hj happ' hval' => ?_⟩
  rw [List.getElem?_map, Option.map_eq_some_iff] at hj
  obtain ⟨r, hj, rfl⟩ := hj
  have hr := List.mem_of_getElem? hj
  rw [hv r hr, Option.isSome_map] at hval'
  exact hmax j r u hj ((ha r hr u).mp happ') hval'

end Css

open Css

/-- The rule applies to the element through a selector of that weight. -/
def Rule.Applies (p : String) (above : List Node) (e : Node) (r : Rule) (w : ℕ ×ₗ ℕ) : Prop :=
  ∃ s ∈ r.selectors, Selects p above e (s.simples p) ∧ weight (s.simples p) = w

/-- What a rule says last about a property. -/
def Rule.value? (q : Property) (r : Rule) : Option Value :=
  ((r.declarations.filter (·.property = q)).getLast?).map (·.value)

def RuleText.value? (property : String) (r : RuleText) : Option String :=
  ((r.declarations.filter (·.1 = property)).getLast?).map Prod.snd

/-! ## Rules for print -/

namespace Rule

variable {above : List Node} {e : Node} {rule : Rule} {d : Declaration} {w : ℕ ×ₗ ℕ}

/-- A rule for print is about classes and nothing else. -/
theorem exists_class_of_print (hr : rule ∈ print) {s : Selector} (hs : s ∈ rule.selectors) :
    ∃ c, s = .class c := by
  have hall : ∀ rule ∈ print, ∀ s ∈ rule.selectors, ∃ c ∈ Class.all, s = .class c := by
    decide +kernel
  obtain ⟨c, -, hc⟩ := hall rule hr s hs
  exact ⟨c, hc⟩

theorem applies_print (hr : rule ∈ print) :
    rule.Applies p above e w ↔ (∃ c ∈ e.classes, .class c ∈ rule.selectors) ∧ w = toLex (1, 0) := by
  constructor
  · rintro ⟨s, hs, hsel, rfl⟩
    obtain ⟨c, rfl⟩ := exists_class_of_print hr hs
    exact ⟨⟨c, selects_class.mp hsel, hs⟩, rfl⟩
  · rintro ⟨⟨c, hc, hs⟩, rfl⟩
    exact ⟨_, hs, selects_class.mpr hc, rfl⟩

theorem applies_class {w : ℕ ×ₗ ℕ} :
    (c.rule layout).Applies p above e w ↔ c ∈ e.classes ∧ w = toLex (1, 0) := by
  simp only [Applies, Class.rule, List.mem_singleton, exists_eq_left, selects_class]
  rw [eq_comm]
  rfl

theorem value?_print (hr : rule ∈ print) (hd : d ∈ rule.declarations) :
    rule.value? d.property = some d.value := by
  have hall : ∀ rule ∈ print, ∀ d ∈ rule.declarations, rule.value? d.property = some d.value := by
    decide +kernel
  exact hall rule hr d hd

/-- A reset that weighs more than a class says nothing about what a rule for print sets. -/
theorem weight_le_of_baseRule {b : Rule} (hb : b ∈ layout.baseRules) (ha : b.Applies p above e w)
    (hr : rule ∈ print) (hd : d ∈ rule.declarations) (hv : (b.value? d.property).isSome) :
    w ≤ toLex (1, 0) := by
  have hnone : ∀ b ∈ resets.tail, ∀ rule ∈ print, ∀ d ∈ rule.declarations,
      (b.value? d.property).isSome = false := by
    decide +kernel
  have htail (hb : b ∈ resets.tail) : False := by
    rw [hnone b hb rule hr d hd] at hv
    cases hv
  obtain ⟨s, hs, hsel, rfl⟩ := ha
  rcases List.mem_cons.mp hb with rfl | hb
  · rw [List.mem_singleton.mp hs]
    exact le_refl _
  · rcases List.mem_cons.mp hb with rfl | hb
    · -- what stands before or after an element is none
      simp only [List.mem_cons, List.not_mem_nil, or_false] at hs
      rcases hs with rfl | rfl | rfl
      · exact le_refl _
      · cases e <;> exact hsel.1.elim
      · cases e <;> exact hsel.1.elim
    · exact (htail hb).elim

/-- No two rules for print are about one class. -/
theorem eq_of_class_mem {i j : ℕ} {other : Rule} (hi : print[i]? = some rule)
    (hj : print[j]? = some other) (hr : .class c ∈ rule.selectors)
    (ho : .class c ∈ other.selectors) : i = j := by
  have hnodup : (print.flatMap (·.selectors)).Nodup := by decide +kernel
  have hpair := List.pairwise_iff_getElem.mp (List.nodup_flatMap.mp hnodup).2
  obtain ⟨hik, rfl⟩ := List.getElem?_eq_some_iff.mp hi
  obtain ⟨hjk, rfl⟩ := List.getElem?_eq_some_iff.mp hj
  rcases lt_trichotomy i j with hlt | heq | hlt
  · exact absurd ho (hpair i j hik hjk hlt hr)
  · exact heq
  · exact absurd hr (hpair j i hjk hik hlt ho)

end Rule

/-- At most one class of an element has a rule for print. -/
theorem Part.eq_of_print {tag : Tag} {cs : List Class} (h : Part layout tag cs) {d : Class}
    (hc : c ∈ cs) (hd : d ∈ cs) {rule other : Rule} (hr : rule ∈ Rule.print)
    (ho : other ∈ Rule.print) (hcr : .class c ∈ rule.selectors)
    (hdo : .class d ∈ other.selectors) : c = d := by
  have hall : ∀ c ∈ cs, ∀ d ∈ cs, (∃ rule ∈ Rule.print, .class c ∈ rule.selectors) →
      (∃ other ∈ Rule.print, .class d ∈ other.selectors) → c = d := by
    cases h with
    | header => cases layout.header.style <;> decide +kernel
    | grid => cases layout.sections.columns.isTwoColumn <;> decide +kernel
    | «section» kind => cases kind <;> decide +kernel
    | skills | skill => cases layout.sections.skills.style <;> decide +kernel
    | experienceList | experience => cases layout.sections.experience.style <;> decide +kernel
    | educationList | education => cases layout.sections.education.style <;> decide +kernel
    | _ => decide +kernel
  exact hall c hc d hd ⟨rule, hr, hcr⟩ ⟨other, ho, hdo⟩

theorem Layout.activeIn_print (layout : Layout) : activeIn "print" layout.stylesheet =
    layout.baseRules ++ (Class.vocabulary layout).map (·.rule layout) ++ Rule.print := by
  have hrules : layout.stylesheet =
      (layout.baseRules ++ (Class.vocabulary layout).map (·.rule layout)).map .rule ++
        [.media "print" Rule.print] := by
    simp [stylesheet, baseRules, Function.comp_def]
  rw [hrules, activeIn_append, activeIn_map_rule, List.append_cancel_left_eq]
  exact List.append_nil _

/-- What a rule for print says about an element prevails, whatever the layout says about it. -/
theorem Part.prevails_print {tag : Tag} {cs : List Class} (h : Part layout tag cs)
    (above : List Node) (as : List (String × String)) (ns : List Node) (hc : c ∈ cs) {rule : Rule}
    (hr : rule ∈ Rule.print) (hs : .class c ∈ rule.selectors) {d : Declaration}
    (hd : d ∈ rule.declarations) :
    Prevails (Rule.Applies p above (.element tag cs as ns)) (Rule.value? d.property)
      (activeIn "print" layout.stylesheet) d.value := by
  obtain ⟨k, hk⟩ := List.mem_iff_getElem?.mp hr
  have hpos : (layout.baseRules ++ (Class.vocabulary layout).map (·.rule layout)).length =
      layout.printPosition := by
    simp [Layout.printPosition]
  rw [layout.activeIn_print]
  refine ⟨layout.printPosition + k, rule, toLex (1, 0), ?_,
    (Rule.applies_print hr).mpr ⟨⟨c, hc, hs⟩, rfl⟩, Rule.value?_print hr hd, ?_⟩
  · rw [List.getElem?_append_right (by omega), hpos, Nat.add_sub_cancel_left, hk]
  · intro j other u hj ha hv
    rw [List.getElem?_append, hpos] at hj
    split at hj
    · rename_i hlt
      rcases List.mem_append.mp (List.mem_of_getElem? hj) with hb | hclass
      · rcases (Rule.weight_le_of_baseRule hb ha hr hd hv).lt_or_eq with hw | hw
        · exact .inl hw
        · exact .inr ⟨hw, by omega⟩
      · obtain ⟨b, -, rfl⟩ := List.mem_map.mp hclass
        exact .inr ⟨(Rule.applies_class.mp ha).2, by omega⟩
    · rename_i hlt
      have ho := List.mem_of_getElem? hj
      obtain ⟨⟨b, hb, hbo⟩, hw⟩ := (Rule.applies_print ho).mp ha
      obtain rfl : c = b := h.eq_of_print hc hb hr ho hs hbo
      have hidx := Rule.eq_of_class_mem hk hj hs hbo
      exact .inr ⟨hw, by omega⟩

/-! ## As it is written -/

/-- The property of a variable has a name that no other has. -/
theorem Property.eq_of_name {q : Property} {s : String}
    (hs : s.toList.take 2 ≠ ['-', '-']) (h : q.name p = s) : q = .standard s := by
  cases q with
  | standard name => exact congrArg _ h
  | «variable» v =>
    refine absurd ?_ hs
    rw [← h, name, Variable.name, String.append_assoc, String.toList_append]
    rfl

theorem Rule.value?_text {q : Property} (hq : ∀ q' : Property, q'.name p = q.name p → q' = q)
    (r : Rule) : (r.text p).value? (q.name p) = (r.value? q).map (·.text p) := by
  have hiff (d : Declaration) :
      decide (d.property.name p = q.name p) = decide (d.property = q) := by
    rw [decide_eq_decide]
    exact ⟨hq _, fun h => h ▸ rfl⟩
  simp [RuleText.value?, Rule.value?, Rule.text, List.filter_map, Function.comp_def, hiff,
    List.getLast?_map]

theorem Layout.selectors_ne_nil {rule : Rule} (h : rule ∈ activeIn "print" layout.stylesheet) :
    rule.selectors ≠ [] := by
  have hall : ∀ rule ∈ Rule.resets ++ Rule.print, rule.selectors ≠ [] := by decide +kernel
  rw [activeIn_print, baseRules, List.mem_append, List.mem_append, List.mem_cons] at h
  rcases h with ((rfl | hb) | hc) | hp
  · exact List.cons_ne_nil _ _
  · exact hall rule (List.mem_append_left _ hb)
  · obtain ⟨c, -, rfl⟩ := List.mem_map.mp hc
    exact List.cons_ne_nil _ _
  · exact hall rule (List.mem_append_right _ hp)

/-- The same as it is written, if the prefix is a word. -/
theorem Part.prevails_print_text (hp : IsWord p) {tag : Tag} {cs : List Class}
    (h : Part layout tag cs) (above : List Node) (as : List (String × String)) (ns : List Node)
    (hc : c ∈ cs) {rule : Rule} (hr : rule ∈ Rule.print) (hs : .class c ∈ rule.selectors)
    {d : Declaration} (hd : d ∈ rule.declarations) :
    Prevails (Css.Applies p above (.element tag cs as ns)) (RuleText.value? (d.property.name p))
      (activeIn "print" (layout.stylesheet.text p)) (d.value.text p) := by
  have hall : ∀ rule ∈ Rule.print, ∀ d ∈ rule.declarations,
      ((d.property.name "").toList.take 2 ≠ ['-', '-'] ∧
        d.property = .standard (d.property.name "")) := by
    decide +kernel
  obtain ⟨hname, hstandard⟩ := hall rule hr d hd
  rw [Stylesheet.text, activeIn_map]
  have hprev := h.prevails_print (p := p) above as ns hc hr hs hd
  refine hprev.map (fun b hb w => ?_) fun b _ => ?_
  · exact applies_text hp (Layout.selectors_ne_nil hb)
  · refine Rule.value?_text (fun q hq => ?_) b
    rw [hstandard] at hq ⊢
    exact Property.eq_of_name hname hq

/-! ## The cascade in print -/

/-- Where the rules of some classes stand: each at one place, in their order, and before the rules
for print, which are the last block. -/
structure Layout.InOrder (layout : Layout) (p : String) (classes : List Class)
    (position : Class → ℕ) (last : ℕ) : Prop where
  only : ∀ c ∈ classes, ∀ i, (∃ rule, (layout.stylesheet.text p)[i]? = some (.rule rule) ∧
    rule.selector = "." ++ c.token p) ↔ i = position c
  increasing : (classes.map position).Pairwise (· < ·)
  before : ∀ c ∈ classes, position c < last
  print : (layout.stylesheet.text p)[last]? = some (.media "print" (Rule.print.map (·.text p)))
  length : (layout.stylesheet.text p).length = last + 1

theorem Layout.inOrder {cs : List Class} (h : cs.Sublist (Class.vocabulary layout)) (p : String) :
    layout.InOrder p cs layout.position layout.printPosition := by
  have hlen := layout.length_topRules p
  exact
    { only := fun c hc _ => exists_rule_iff (h.subset hc)
      increasing := by
        have hidx := pairwise_idxOf (Class.nodup_vocabulary layout) h
        rw [List.pairwise_map] at hidx ⊢
        exact hidx.imp fun hlt => Nat.add_lt_add_left hlt _
      before := fun c hc => position_lt (h.subset hc)
      print := by
        rw [stylesheet_text, List.getElem?_append_right (by simp [hlen])]
        simp [hlen]
      length := by simp [stylesheet_text, hlen] }

/-- The fill of a skill bar, which is styled by itself, is nothing to print. -/
theorem Rule.skillFill_notMem_print {rule : Rule} (hr : rule ∈ print) :
    .class .skillFill ∉ rule.selectors := by
  have hall : ∀ rule ∈ print, .class .skillFill ∉ rule.selectors := by decide +kernel
  exact hall rule hr

/-- Of two classes of an element the later one decides. -/
theorem Layout.defeats_of_sublist (hp : IsWord p) {above : List Node} {e : Node}
    (h : e.classes.Sublist (Class.vocabulary layout)) :
    e.classes.Pairwise fun c d => ∀ property, Sets ((c.rule layout).text p) property →
      Sets ((d.rule layout).text p) property →
      Defeats p (layout.topRules p) above e property (layout.position d) (layout.position c) := by
  refine (List.pairwise_map.mp (layout.inOrder h p).increasing).imp_of_mem ?_
  intro c d hc hd hlt property hsc hsd
  refine ⟨_, _, getElem?_position (h.subset hd) p, getElem?_position (h.subset hc) p, hsd, hsc,
    toLex (1, 0), (Css.applies_class hp).mpr ⟨hd, rfl⟩, fun v hv => .inr ⟨?_, hlt⟩⟩
  exact ((Css.applies_class hp).mp hv).2

/-- The rules of an element's classes stand in the order in which the element names them, so that a
later one decides where two set one property, and behind them all stand the rules for print. In
print, what these say about a class of the element prevails over all that is said about the element,
and the element is not styled by itself. -/
theorem Layout.prevails_in_print {r : Resume} {above : List Node} {e : Node}
    (he : (above, e) ∈ (layout.fragment r).locate []) (p : String) :
    layout.InOrder p e.classes layout.position layout.printPosition ∧
      (IsWord p → e.classes.Pairwise fun c d => ∀ property,
        Sets ((c.rule layout).text p) property → Sets ((d.rule layout).text p) property →
        Defeats p (layout.topRules p) above e property (layout.position d) (layout.position c)) ∧
      ∀ rule ∈ Rule.print, ∀ c ∈ e.classes, .class c ∈ rule.selectors → ∀ d ∈ rule.declarations,
        (∀ v, Prevails (Rule.Applies p above e) (Rule.value? d.property)
          (activeIn "print" layout.stylesheet) v ↔ v = d.value) ∧
        (IsWord p → ∀ v, Prevails (Css.Applies p above e) (RuleText.value? (d.property.name p))
          (activeIn "print" (layout.stylesheet.text p)) v ↔ v = d.value.text p) ∧
        "style" ∉ e.attributes.map Prod.fst := by
  have hwalk := Node.mem_walk_of_mem_locate he
  cases e with
  | text s =>
    have hsub : (Node.text s).classes.Sublist (Class.vocabulary layout) := List.nil_sublist _
    exact ⟨inOrder hsub p, fun hp => defeats_of_sublist hp hsub, fun _ _ _ hc => by cases hc⟩
  | element tag cs as ns =>
    have hpart : Part layout tag cs := fits_fragment layout r _ hwalk
    have hsub := hpart.sublist_vocabulary
    refine ⟨inOrder hsub p, fun hp => defeats_of_sublist hp hsub, ?_⟩
    refine fun rule hr c hc hs d hd => ⟨fun v => ?_, fun hp v => ?_, fun hstyle => ?_⟩
    · have hprev := hpart.prevails_print (p := p) above as ns hc hr hs hd
      exact ⟨fun hv => hv.unique hprev, fun hv => hv ▸ hprev⟩
    · have hprev := hpart.prevails_print_text hp above as ns hc hr hs hd
      exact ⟨fun hv => hv.unique hprev, fun hv => hv ▸ hprev⟩
    · have happ : Node.Apart tag cs as ns := (keepsApart_fragment layout r).2 _ hwalk
      obtain rfl : c = .skillFill := List.mem_singleton.mp (happ.style hstyle ▸ hc)
      exact Rule.skillFill_notMem_print hr hs

/-- The name on a neutral page, 32 pixels high on a screen and 28 in print. -/
theorem Layout.prevails_in_print_name :
    ∃ above, (above, Fragment.labelled .h1 .name "Ada") ∈
        (neutral.fragment { primaryName := "Ada" }).locate [] ∧
      IsWord "rt-" ∧ ∀ v, Prevails (Css.Applies "rt-" above (Fragment.labelled .h1 .name "Ada"))
        (RuleText.value? "font-size") (activeIn "print" (neutral.stylesheet.text "rt-")) v ↔
          v = "28px" := by
  have hwalk : Fragment.labelled .h1 .name "Ada" ∈
      (neutral.fragment { primaryName := "Ada" }).walk := by
    simp [fragment, Fragment.header, Fragment.identity, Fragment.labelled, Node.walk_element,
      neutral]
  obtain ⟨above, he⟩ := Node.exists_mem_locate hwalk
  have hword : IsWord "rt-" := by decide
  have hrule : (⟨[.class .name], [⟨"font-size", "28px"⟩]⟩ : Rule) ∈ Rule.print := by decide
  exact ⟨above, he, hword, ((prevails_in_print he "rt-").2.2 _ hrule .name List.mem_cons_self
    List.mem_cons_self ⟨"font-size", "28px"⟩ List.mem_cons_self).2.1 hword⟩

end Vitae

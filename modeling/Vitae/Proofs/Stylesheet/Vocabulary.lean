import Vitae.Proofs.Fragment.Parts
import Vitae.Proofs.Markup.Class
import Vitae.Stylesheet.Rules
import Vitae.Stylesheet.Writer
import Vitae.Template.Custom

/-! # Every class has its rule

A fragment and a stylesheet of one layout speak of the same classes. The fragment keeps to the
classes that the layout has a use for, the stylesheet has one rule for each of those, and no other
selector outside its media blocks reads like the selector of a class. -/

namespace Vitae

/-! ## Classes of a fragment -/

theorem Part.usedBy {layout : Layout} {tag : Tag} {cs : List Class} (h : Part layout tag cs) :
    ∀ c ∈ cs, c.UsedBy layout := by
  cases h with
  | grid h =>
    intro c hc
    rcases List.mem_append.mp hc with hc | hc
    · rw [List.mem_singleton.mp hc]
      exact h
    · obtain ⟨hs, hc⟩ := Class.mem_onlyIf.mp hc
      rw [List.mem_singleton.mp hc]
      exact ⟨h, by simpa using hs⟩
  | left h => simpa [Class.UsedBy, h] using Class.hasGrid_of_left h
  | right h => simpa [Class.UsedBy, h] using Class.hasGrid_of_right h
  | _ => simp [Class.UsedBy, *]

theorem Node.usedBy_of_mem_walk {layout : Layout} {r : Resume} {e : Node} {c : Class}
    (he : e ∈ (layout.fragment r).walk) (hc : c ∈ e.classes) : c.UsedBy layout := by
  cases e with
  | text s => cases hc
  | element tag classes attributes children =>
    have hp : Part layout tag classes := fits_fragment layout r _ he
    exact hp.usedBy c hc

/-! ## Rules outside media blocks -/

def Block.rule? {ρ : Type} : Block ρ → Option ρ
  | rule r => some r
  | media _ _ => none

namespace Layout

/-- The rules of the stylesheet as it is written that hold for every medium. -/
def topRules (layout : Layout) (p : String) : List RuleText :=
  (layout.stylesheet.text p).filterMap Block.rule?

def baseRules (layout : Layout) : List Rule := layout.palette :: Rule.resets

theorem topRules_eq (layout : Layout) (p : String) :
    layout.topRules p = layout.baseRules.map (·.text p) ++
      (Class.vocabulary layout).map fun c => (c.rule layout).text p := by
  simp [topRules, stylesheet, Stylesheet.text, baseRules, List.filterMap_append,
    List.filterMap_map, Function.comp_def, Block.map, Block.rule?]

end Layout

namespace Class

theorem selector_rule_text (layout : Layout) (c : Class) (p : String) :
    ((c.rule layout).text p).selector = "." ++ c.token p := by
  simp [rule, Rule.text, Selector.text]

theorem declarations_ne_nil (layout : Layout) (c : Class) : c.declarations layout ≠ [] := by
  cases c with
  | headerVariant style => cases style <;> exact List.cons_ne_nil _ _
  | columnSide side => cases side <;> exact List.cons_ne_nil _ _
  | sectionVariant kind => cases kind <;> exact List.cons_ne_nil _ _
  | skillsVariant style => cases style <;> exact List.cons_ne_nil _ _
  | skillVariant style => cases style <;> exact List.cons_ne_nil _ _
  | experienceListVariant style => cases style <;> exact List.cons_ne_nil _ _
  | experienceVariant style => cases style <;> exact List.cons_ne_nil _ _
  | educationListVariant style => cases style <;> exact List.cons_ne_nil _ _
  | educationVariant style => cases style <;> exact List.cons_ne_nil _ _
  | _ => exact List.cons_ne_nil _ _

end Class

/-- A blank stands behind the class of what a reset is about. -/
theorem Rule.selector_text_inside_ne (c d : Class) (target : Target) (ss : List Selector)
    (ds : List Declaration) (p : String) :
    (Rule.text p ⟨.inside d target :: ss, ds⟩).selector ≠ "." ++ c.token p := by
  intro h
  obtain ⟨rest, hr⟩ : ∃ rest, (Rule.text p ⟨.inside d target :: ss, ds⟩).selector =
      "." ++ (p ++ (d.baseName ++ (" " ++ rest))) := by
    cases ss with
    | nil =>
      exact ⟨target.text, by simp [Rule.text, Selector.text, Class.token, String.append_assoc]⟩
    | cons s ss =>
      exact ⟨target.text ++ (", " ++ ", ".intercalate ((s :: ss).map (·.text p))),
        by simp [Rule.text, Selector.text, Class.token, String.append_assoc,
          String.intercalate_cons_cons]⟩
  rw [hr, Class.token, String.append_right_inj, String.append_right_inj] at h
  refine c.isWord_baseName.not_mem (c := ' ') rfl ?_
  rw [← h]
  simp

theorem Layout.selector_baseRules_ne {layout : Layout} {rule : Rule} (h : rule ∈ layout.baseRules)
    (c : Class) (p : String) : (rule.text p).selector ≠ "." ++ c.token p := by
  simp only [baseRules, Rule.resets, List.mem_cons, List.not_mem_nil, or_false] at h
  rcases h with rfl | rfl | rfl | rfl
  · intro h
    have := congrArg String.toList h
    simp [palette, Rule.text, Selector.text] at this
  all_goals exact Rule.selector_text_inside_ne _ _ _ _ _ _

/-- An element's class is the selector of exactly one rule, and that rule says something. -/
theorem Layout.filter_topRules_eq_singleton {layout : Layout} {r : Resume} {e : Node} {c : Class}
    (he : e ∈ (layout.fragment r).walk) (hc : c ∈ e.classes) (p : String) :
    ∃ rule, (layout.topRules p).filter (·.selector = "." ++ c.token p) = [rule] ∧
      rule.declarations ≠ [] := by
  have hv : c ∈ Class.vocabulary layout :=
    Class.mem_vocabulary_iff.mpr (Node.usedBy_of_mem_walk he hc)
  have hb : (layout.baseRules.map (·.text p)).filter (·.selector = "." ++ c.token p) = [] := by
    rw [List.filter_eq_nil_iff, List.forall_mem_map]
    intro rule hr
    simpa using selector_baseRules_ne hr c p
  have hd : (Class.vocabulary layout).filter (· == c) = [c] := by
    rw [List.filter_beq, List.count_eq_one_of_mem (Class.nodup_vocabulary layout) hv]
    rfl
  have hs : ∀ d : Class,
      decide (((d.rule layout).text p).selector = "." ++ c.token p) = (d == c) := by
    intro d
    rw [Class.selector_rule_text, beq_eq_decide, decide_eq_decide, String.append_right_inj]
    exact ⟨Class.token_injective, fun h => h ▸ rfl⟩
  refine ⟨(c.rule layout).text p, ?_, ?_⟩
  · rw [topRules_eq, List.filter_append, hb, List.nil_append, List.filter_map]
    simp only [Function.comp_def, hs, hd, List.map_cons, List.map_nil]
  · simpa [Class.rule, Rule.text] using c.declarations_ne_nil layout

theorem Layout.filter_topRules_neutral_name :
    Fragment.labelled .h1 .name "Ada" ∈ (neutral.fragment { primaryName := "Ada" }).walk ∧
      ∃ rule,
        (neutral.topRules "rt-").filter (·.selector = "." ++ Class.name.token "rt-") = [rule] ∧
          rule.declarations ≠ [] := by
  have he : Fragment.labelled .h1 .name "Ada" ∈
      (neutral.fragment { primaryName := "Ada" }).walk := by
    simp [Layout.fragment, Fragment.header, Fragment.identity, Fragment.labelled,
      Node.walk_element, neutral]
  exact ⟨he, filter_topRules_eq_singleton he List.mem_cons_self "rt-"⟩

end Vitae

import Vitae.Proofs.Stylesheet.RoundTrip
import Vitae.Template.Basic

/-! # Variables

The first rule of a stylesheet declares the variables, each of them once, and gives them the colors
and fonts of the layout as they are. The other rules know the palette through these variables only:
they refer to no others, and they stay the same whatever the colors and fonts are. -/

namespace Vitae

open Text (IsWord)

/-- Within the value stands a reference to the name. -/
def Css.RefersTo (value name : String) : Prop := ("var(" ++ name ++ ")").toList <:+: value.toList

open Css (RefersTo)

variable {p : String} {layout : Layout}

/-! ## References -/

theorem Css.RefersTo.paren_mem {value name : String} (h : RefersTo value name) :
    "var(".toList <:+: value.toList := by
  refine List.IsInfix.trans ⟨[], (name ++ ")").toList, ?_⟩ h
  simp

/-- Behind a text without parentheses, one reference is all that there is. -/
theorem Css.RefersTo.eq_of_append {before n name : String} (hb : '(' ∉ before.toList)
    (ho : '(' ∉ n.toList) (hc : ')' ∉ n.toList)
    (h : RefersTo (before ++ "var(" ++ n ++ ")") name) : name = n := by
  obtain ⟨xs, ys, h⟩ := h
  have hsplit : (xs ++ "var".toList) ++ '(' :: (name.toList ++ ')' :: ys) =
      (before.toList ++ "var".toList) ++ '(' :: (n.toList ++ [')']) := by
    simpa using h
  have hbv : '(' ∉ before.toList ++ "var".toList := by
    intro hmem
    rcases List.mem_append.mp hmem with hm | hm
    · exact hb hm
    · exact absurd hm (by decide)
  have hnv : '(' ∉ n.toList ++ [')'] := by
    intro hmem
    rcases List.mem_append.mp hmem with hm | hm
    · exact ho hm
    · exact absurd hm (by decide)
  obtain ⟨-, -, hrest⟩ := (List.append_cons_inj_of_notMem hbv hnv).mp hsplit.symm
  obtain ⟨hname, -, -⟩ := (List.append_cons_inj_of_notMem hc List.not_mem_nil).mp hrest
  exact (String.toList_injective hname).symm

/-! ## Values -/

/-- A value that is written out has no reference in it. -/
def Value.IsOpen : Value → Prop
  | verbatim s => ¬ "var(".toList <:+: s.toList
  | _ => True

instance : DecidablePred Value.IsOpen
  | .verbatim s => inferInstanceAs (Decidable (¬ "var(".toList <:+: s.toList))
  | .pixels _ | .reference _ | .line _ _ => inferInstanceAs (Decidable True)

theorem Text.paren_notMem_toString_append (n : ℕ) {s : String} (hs : '(' ∉ s.toList) :
    '(' ∉ (toString n ++ s).toList := by
  rw [String.toList_append, List.mem_append]
  rintro (hm | hm)
  · exact (isWord_toString n).not_mem rfl hm
  · exact hs hm

theorem Value.exists_variable_of_refersTo (hp : IsWord p) {v : Value} (hv : v.IsOpen)
    {name : String} (h : RefersTo (v.text p) name) : ∃ x : Variable, name = x.name p := by
  have behind (before : String) (x : Variable) (hb : '(' ∉ before.toList)
      (hx : RefersTo (before ++ x.reference p) name) : name = x.name p := by
    have hw := x.isWord_name hp
    refine Css.RefersTo.eq_of_append hb (hw.not_mem rfl) (hw.not_mem rfl) ?_
    simpa [Variable.reference, String.append_assoc] using hx
  cases v with
  | verbatim s => exact absurd h.paren_mem hv
  | pixels n =>
    have hm : '(' ∈ (toString n ++ "px").toList := h.paren_mem.subset (by decide)
    exact absurd hm (Text.paren_notMem_toString_append n (by decide))
  | reference x => exact ⟨x, behind "" x (by decide) (by simpa [text] using h)⟩
  | line n x =>
    have hb := Text.paren_notMem_toString_append n (s := "px solid ") (by decide)
    exact ⟨x, behind (toString n ++ "px solid ") x hb (by simpa [text] using h)⟩

/-! ## The rules behind the first -/

namespace Layout

/-- All but the rule that declares the palette. -/
def remainder (layout : Layout) : Stylesheet :=
  Rule.resets.map .rule ++ (Class.vocabulary layout).map (fun c => .rule (c.rule layout)) ++
    [.media "print" Rule.print]

theorem stylesheet_eq_cons (layout : Layout) :
    layout.stylesheet = .rule layout.palette :: layout.remainder := by
  simp [stylesheet, remainder]

theorem isOpen_of_mem_remainder {b : Block Rule} (hb : b ∈ layout.remainder) {rule : Rule}
    (hr : rule ∈ b.rules) {d : Declaration} (hd : d ∈ rule.declarations) : d.value.IsOpen := by
  have hfixed : ∀ rule ∈ Rule.resets ++ Rule.print, ∀ d ∈ rule.declarations, d.value.IsOpen := by
    decide +kernel
  have hclass (c : Class) : ∀ d ∈ c.declarations layout, d.value.IsOpen :=
    c.forall_mem_declarations (by decide +kernel) layout
  rw [remainder, List.mem_append, List.mem_append, List.mem_singleton] at hb
  rcases hb with (hb | hb) | rfl
  · obtain ⟨reset, hreset, rfl⟩ := List.mem_map.mp hb
    rw [Block.rules, List.mem_singleton] at hr
    exact hfixed rule (List.mem_append_left _ (hr ▸ hreset)) d hd
  · obtain ⟨c, -, rfl⟩ := List.mem_map.mp hb
    rw [Block.rules, List.mem_singleton] at hr
    rw [hr] at hd
    exact hclass c d hd
  · exact hfixed rule (List.mem_append_right _ hr) d hd

theorem vocabulary_congr {other : Layout} (hheader : other.header = layout.header)
    (hsections : other.sections = layout.sections) :
    Class.vocabulary other = Class.vocabulary layout := by
  unfold Class.vocabulary
  rw [hheader, hsections]

theorem remainder_congr {other : Layout} (hheader : other.header = layout.header)
    (hsections : other.sections = layout.sections)
    (hsize : other.typography.headingSize = layout.typography.headingSize) :
    other.remainder = layout.remainder := by
  have hrule (c : Class) : c.rule other = c.rule layout := by
    rw [Class.rule, Class.rule, c.declarations_eq other, c.declarations_eq layout, hheader, hsize]
  simp only [remainder, vocabulary_congr hheader hsections, hrule]

end Layout

/-! ## The first rule -/

theorem Variable.name_injective {x y : Variable} (h : x.name p = y.name p) : x = y := by
  have hall : ∀ x ∈ all, ∀ y ∈ all, x.baseName = y.baseName → x = y := by decide +kernel
  rw [name, name, String.append_right_inj] at h
  exact hall x (by cases x <;> decide) y (by cases y <;> decide) h

theorem Variable.count_names (x : Variable) : (all.map (·.name p)).count (x.name p) = 1 := by
  have hnodup : (all.map (·.name p)).Nodup :=
    List.Nodup.map_on (fun _ _ _ _ h => name_injective h) (by decide)
  exact List.count_eq_one_of_mem hnodup (List.mem_map_of_mem (by cases x <;> decide))

/-- What the first rule says, variable by variable. -/
def Layout.declared (layout : Layout) (p : String) : List (String × String) :=
  [("--" ++ p ++ "primary", layout.colors.primary),
    ("--" ++ p ++ "secondary", layout.colors.secondary),
    ("--" ++ p ++ "accent", layout.colors.accent),
    ("--" ++ p ++ "background", layout.colors.background),
    ("--" ++ p ++ "text", layout.colors.text),
    ("--" ++ p ++ "heading-font", layout.typography.headingFont),
    ("--" ++ p ++ "body-font", layout.typography.bodyFont)]

theorem Layout.text_stylesheet (layout : Layout) (p : String) :
    layout.stylesheet.text p =
      .rule ⟨":root", layout.declared p⟩ :: Stylesheet.text p layout.remainder := by
  rw [stylesheet_eq_cons]
  rfl

theorem Layout.count_declared_of_refersTo (hp : IsWord p) {b : Block RuleText}
    (hb : b ∈ Stylesheet.text p layout.remainder) {rule : RuleText} (hr : rule ∈ b.rules)
    {d : String × String} (hd : d ∈ rule.declarations) {name : String} (h : RefersTo d.2 name) :
    ((layout.declared p).map Prod.fst).count name = 1 := by
  obtain ⟨block, hblock, rfl⟩ := List.mem_map.mp hb
  obtain ⟨source, hsource, rfl⟩ : ∃ source ∈ block.rules, source.text p = rule := by
    cases block with
    | rule source =>
      obtain rfl : rule = source.text p := List.mem_singleton.mp hr
      exact ⟨source, List.mem_singleton_self _, rfl⟩
    | media query sources => exact List.mem_map.mp hr
  obtain ⟨e, he, rfl⟩ := List.mem_map.mp hd
  have hopen := isOpen_of_mem_remainder hblock hsource he
  obtain ⟨x, rfl⟩ := Value.exists_variable_of_refersTo hp hopen h
  exact x.count_names

/-- The first rule alone holds the colors and fonts of a template, as they are. What stands behind
it refers to the variables declared there and to no others, and is the same for every template with
the same header, sections and size of headings. -/
theorem Template.palette_apart (t : Template) (p : String) :
    ∃ rest, t.layout.stylesheet.text p = .rule ⟨":root", t.layout.declared p⟩ :: rest ∧
      (IsWord p → ∀ b ∈ rest, ∀ rule ∈ b.rules, ∀ d ∈ rule.declarations, ∀ name,
        RefersTo d.2 name → ((t.layout.declared p).map Prod.fst).count name = 1) ∧
      ∀ u : Template, u.layout.header = t.layout.header → u.layout.sections = t.layout.sections →
        u.layout.typography.headingSize = t.layout.typography.headingSize →
        u.layout.stylesheet.text p = .rule ⟨":root", u.layout.declared p⟩ :: rest := by
  refine ⟨Stylesheet.text p t.layout.remainder, t.layout.text_stylesheet p, ?_, ?_⟩
  · intro hp b hb rule hr d hd name h
    exact Layout.count_declared_of_refersTo hp hb hr hd h
  · intro u hheader hsections hsize
    rw [u.layout.text_stylesheet, Layout.remainder_congr hheader hsections hsize]

/-- A palette may hold braces and references of its own. -/
theorem Template.palette_apart_hostile :
    let t : Template := ⟨"k", "N", "", .modern, Layout.neutral⟩
    let u : Template := ⟨"other", "M", "D", .minimal, { Layout.neutral with
      colors := ⟨"var(--x)", "red; \x7d .resume \x7b color: blue", "", "</style>", "\""⟩
      typography := ⟨"'", "\x7d", .medium⟩ }⟩
    IsWord "rt-" ∧ ∃ rest,
      t.layout.stylesheet.text "rt-" = .rule ⟨":root", t.layout.declared "rt-"⟩ :: rest ∧
      u.layout.stylesheet.text "rt-" = .rule ⟨":root", u.layout.declared "rt-"⟩ :: rest ∧
      ∃ b ∈ rest, ∃ rule ∈ b.rules, ∃ d ∈ rule.declarations,
        RefersTo d.2 "--rt-primary" ∧
          ((t.layout.declared "rt-").map Prod.fst).count "--rt-primary" = 1 := by
  intro t u
  have hp : IsWord "rt-" := by decide
  obtain ⟨rest, ht, hrefers, hu⟩ := palette_apart t "rt-"
  have hrest : rest = Stylesheet.text "rt-" t.layout.remainder := by
    rw [t.layout.text_stylesheet] at ht
    exact (List.cons.inj ht).2.symm
  have hb : (.rule ((Class.header.rule t.layout).text "rt-") : Block RuleText) ∈ rest := by
    rw [hrest, Stylesheet.text]
    refine List.mem_map.mpr ⟨.rule (Class.header.rule t.layout), ?_, rfl⟩
    refine List.mem_append_left _ (List.mem_append_right _ (List.mem_map.mpr ⟨.header, ?_, rfl⟩))
    exact Class.mem_vocabulary_iff.mpr trivial
  have hd : ("border-bottom", "2px solid var(--rt-primary)") ∈
      ((Class.header.rule t.layout).text "rt-").declarations := by decide +kernel
  have hr : RefersTo "2px solid var(--rt-primary)" "--rt-primary" :=
    ⟨"2px solid ".toList, [], by decide⟩
  refine ⟨hp, rest, ht, hu u rfl rfl rfl, _, hb, _, List.mem_singleton_self _, _, hd, hr, ?_⟩
  exact hrefers hp _ hb _ (List.mem_singleton_self _) _ hd _ hr

end Vitae

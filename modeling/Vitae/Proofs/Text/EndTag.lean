import Mathlib.Data.List.Infix
import Vitae.Text.Escape

/-! # End tags

An element whose text is not markup ends where its end tag begins, in upper or lower case. A text
in which no slash follows a `<` cannot end it, wherever it is put, and a style that is escaped is
such a text. -/

namespace Vitae.Text

/-- What every end tag begins with. -/
def tagEnd : List Char := ['<', '/']

/-- Nothing in the text could be taken for an end tag. -/
def IsInert (cs : List Char) : Prop := ¬ tagEnd <:+: cs

instance (cs : List Char) : Decidable (IsInert cs) := inferInstanceAs (Decidable (¬ _))

/-- Behind `before` the text goes on with the word, which is in lower case, in whatever case. -/
def OccursAt (word text before : List Char) : Prop :=
  ∃ rest, text = before ++ rest ∧ word <+: rest.map Char.toLower

/-! ## Inert texts -/

theorem isInert_nil : IsInert [] := by decide

theorem isInert_cons {c : Char} {cs : List Char} :
    IsInert (c :: cs) ↔ ¬ tagEnd <+: c :: cs ∧ IsInert cs := by
  unfold IsInert
  rw [List.infix_cons_iff, not_or]

theorem tagEnd_prefix_cons {c : Char} {cs : List Char} :
    tagEnd <+: c :: cs ↔ c = '<' ∧ cs.head? = some '/' := by
  cases cs with
  | nil => simp [tagEnd]
  | cons d cs => simp [tagEnd, eq_comm]

theorem isInert_of_notMem {cs : List Char} (h : '<' ∉ cs) : IsInert cs := by
  intro hfound
  exact h (hfound.subset List.mem_cons_self)

/-- No end tag comes about where two inert texts meet, unless the one ends with `<` and the other
begins with a slash. -/
theorem IsInert.append {cs ds : List Char} (hc : IsInert cs) (hd : IsInert ds)
    (h : ¬ (cs.getLast? = some '<' ∧ ds.head? = some '/')) : IsInert (cs ++ ds) := by
  induction cs with
  | nil => exact hd
  | cons c cs ih =>
    obtain ⟨hfirst, hrest⟩ := isInert_cons.mp hc
    rw [List.cons_append, isInert_cons, tagEnd_prefix_cons]
    cases cs with
    | nil =>
      refine ⟨?_, hd⟩
      rintro ⟨rfl, hslash⟩
      exact h ⟨rfl, hslash⟩
    | cons d cs =>
      rw [tagEnd_prefix_cons] at hfirst
      exact ⟨hfirst, ih hrest h⟩

/-! ## Places of end tags -/

theorem eq_of_toLower_eq {c d : Char} (hd : d.toNat < 65) (h : c.toLower = d) : c = d := by
  unfold Char.toLower at h
  split at h
  · rename_i hupper
    have hA : 65 ≤ c.toNat := hupper.1
    have hZ : c.toNat ≤ 90 := hupper.2
    subst h
    simp at hd
    omega
  · exact h

/-- What begins an end tag is no letter, so it is written in one way only. -/
theorem exists_eq_tagEnd_append {name rest : List Char}
    (h : tagEnd ++ name <+: rest.map Char.toLower) :
    ∃ more, rest = tagEnd ++ more ∧ name <+: more.map Char.toLower := by
  obtain ⟨tail, h⟩ := h
  obtain ⟨c, rest, rfl, hc, h⟩ := List.map_eq_cons_iff.mp h.symm
  obtain ⟨d, rest, rfl, hd, h⟩ := List.map_eq_cons_iff.mp h
  obtain rfl := eq_of_toLower_eq (by decide) hc
  obtain rfl := eq_of_toLower_eq (by decide) hd
  exact ⟨rest, rfl, tail, (List.cons.inj (List.cons.inj h).2).2⟩

theorem not_occursAt_of_isInert {name cs before : List Char} (h : IsInert cs) :
    ¬ OccursAt (tagEnd ++ name) cs before := by
  rintro ⟨rest, rfl, hword⟩
  obtain ⟨more, rfl, -⟩ := exists_eq_tagEnd_append hword
  exact h ⟨before, more, List.append_assoc ..⟩

/-- Two beginnings of end tags do not overlap. -/
theorem tagEnd_append_eq {ds es gap : List Char} (h : tagEnd ++ ds = gap ++ (tagEnd ++ es)) :
    gap = [] ∧ ds = es ∨ ∃ more, gap = tagEnd ++ more ∧ ds = more ++ (tagEnd ++ es) := by
  match gap, h with
  | [], h => exact .inl ⟨rfl, List.append_cancel_left h⟩
  | [c], h => exact absurd (List.cons.inj (List.cons.inj h).2).1 (by decide)
  | c :: d :: more, h =>
    simp only [tagEnd, List.cons_append, List.nil_append, List.cons.injEq] at h
    obtain ⟨rfl, rfl, hds⟩ := h
    exact .inr ⟨more, rfl, hds⟩

/-- The first end tag stands behind the inert text in front of it. -/
theorem occursAt_append_tagEnd {name cs ds before : List Char} (h : IsInert cs) :
    OccursAt (tagEnd ++ name) (cs ++ (tagEnd ++ ds)) before ↔
      before = cs ∧ name <+: ds.map Char.toLower ∨
      ∃ more, before = cs ++ (tagEnd ++ more) ∧ OccursAt (tagEnd ++ name) ds more := by
  constructor
  · rintro ⟨rest, heq, hword⟩
    obtain ⟨after, rfl, hname⟩ := exists_eq_tagEnd_append hword
    rcases List.append_eq_append_iff.mp heq with ⟨gap, rfl, hgap⟩ | ⟨gap, rfl, hgap⟩
    · rcases tagEnd_append_eq hgap with ⟨rfl, rfl⟩ | ⟨more, rfl, rfl⟩
      · exact .inl ⟨List.append_nil _, hname⟩
      · exact .inr ⟨more, rfl, _, rfl, hword⟩
    · rcases tagEnd_append_eq hgap with ⟨rfl, rfl⟩ | ⟨more, rfl, -⟩
      · exact .inl ⟨(List.append_nil _).symm, hname⟩
      · -- it would begin within `cs`
        exact absurd ⟨before, more, by simp⟩ h
  · rintro (⟨rfl, hname⟩ | ⟨more, rfl, rest, rfl, hword⟩)
    · refine ⟨tagEnd ++ ds, rfl, ?_⟩
      rw [List.map_append]
      exact (List.prefix_append_right_inj tagEnd).mpr hname
    · exact ⟨rest, by simp, hword⟩

/-- Whether a name begins a text shows in its first word, where that is no shorter. -/
theorem prefix_map_toLower_append {name : List Char} (word cs : List Char)
    (hlen : name.length ≤ word.length) (hword : word.map Char.toLower = word) :
    name <+: (word ++ cs).map Char.toLower ↔ name <+: word := by
  rw [List.map_append, hword]
  constructor
  · intro h
    exact List.prefix_of_prefix_length_le h (List.prefix_append word _) hlen
  · intro h
    exact h.trans (List.prefix_append word _)

/-! ## Styles -/

theorem head?_separateSlash (cs : List Char) : (separateSlash cs).head? = cs.head? := by
  fun_cases separateSlash cs <;> rfl

theorem isInert_separateSlash (cs : List Char) : IsInert (separateSlash cs) := by
  fun_induction separateSlash cs with
  | case1 cs ih =>
    have hslash : IsInert ('/' :: separateSlash cs) :=
      isInert_cons.mpr ⟨by simp [tagEnd_prefix_cons], ih⟩
    have hback : IsInert ('\\' :: '/' :: separateSlash cs) :=
      isInert_cons.mpr ⟨by simp [tagEnd_prefix_cons], hslash⟩
    exact isInert_cons.mpr ⟨by simp [tagEnd_prefix_cons], hback⟩
  | case2 c cs hne ih =>
    refine isInert_cons.mpr ⟨?_, ih⟩
    rw [tagEnd_prefix_cons, head?_separateSlash]
    rintro ⟨rfl, hslash⟩
    obtain ⟨ds, rfl⟩ := List.head?_eq_some_iff.mp hslash
    exact hne ds rfl rfl
  | case3 => exact isInert_nil

theorem separateSlash_eq_self {cs : List Char} (h : IsInert cs) : separateSlash cs = cs := by
  fun_induction separateSlash cs with
  | case1 cs ih => exact absurd ⟨[], cs, rfl⟩ h
  | case2 c cs hne ih => rw [ih (isInert_cons.mp h).2]
  | case3 => rfl

theorem getLast?_separateSlash (cs : List Char) : (separateSlash cs).getLast? = cs.getLast? := by
  fun_induction separateSlash cs with
  | case1 cs ih => simp [List.getLast?_cons, ih]
  | case2 c cs hne ih => simp [List.getLast?_cons, ih]
  | case3 => rfl

theorem toList_escapeStyle (s : String) : (escapeStyle s).toList = separateSlash s.toList :=
  String.toList_ofList

theorem isInert_escapeStyle (s : String) : IsInert (escapeStyle s).toList := by
  rw [toList_escapeStyle]
  exact isInert_separateSlash s.toList

theorem escapeStyle_eq_self_iff {s : String} : escapeStyle s = s ↔ IsInert s.toList := by
  constructor
  · intro h
    rw [← h]
    exact isInert_escapeStyle s
  · intro h
    rw [escapeStyle, separateSlash_eq_self h, String.ofList_toList]

example : escapeStyle "a<</b></" = "a<<\\/b><\\/" := by decide

end Vitae.Text

import Mathlib.Data.List.DropRight
import Vitae.Text.Blank

/-! # White space at the ends of a text

What is left of a text that is trimmed is the one part of it that neither begins nor ends with white
space and has nothing else around it. -/

namespace Vitae.Text

structure TrimsTo (cs core : List Char) : Prop where
  around : ∃ before after, cs = before ++ core ++ after ∧
    ∀ c ∈ before ++ after, isSpace c = true
  ends : ∀ c, c ∈ core.head? ∨ c ∈ core.getLast? → isSpace c = false

theorem trimEnd_eq_rdropWhile (cs : List Char) : trimEnd cs = cs.rdropWhile isSpace := rfl

theorem trimEnd_append (core : List Char) {after : List Char}
    (ha : ∀ c ∈ after, isSpace c = true) : trimEnd (core ++ after) = trimEnd core := by
  rw [trimEnd, List.reverse_append, List.dropWhile_append_of_pos, trimEnd]
  intro c hc
  exact ha c (List.mem_reverse.mp hc)

theorem TrimsTo.trimList_eq {cs core : List Char} (h : TrimsTo cs core) : trimList cs = core := by
  obtain ⟨⟨before, after, rfl, hspace⟩, hends⟩ := h
  obtain ⟨hb, ha⟩ := List.forall_mem_append.mp hspace
  rw [trimList, List.append_assoc, List.dropWhile_append_of_pos hb]
  cases core with
  | nil =>
    have hnil : after.dropWhile isSpace = [] := List.dropWhile_eq_nil_iff.mpr ha
    rw [List.nil_append, hnil]
    rfl
  | cons d ds =>
    have hd : isSpace d = false := hends d (.inl rfl)
    rw [List.cons_append, List.dropWhile_cons_of_neg (by simp [hd]), ← List.cons_append,
      trimEnd_append _ ha, trimEnd_eq_rdropWhile, List.rdropWhile_eq_self_iff]
    intro hne
    simp [hends _ (.inr (List.getLast?_eq_some_getLast hne))]

theorem trimsTo_trimList (cs : List Char) : TrimsTo cs (trimList cs) := by
  have hsplit : trimList cs ++ (cs.dropWhile isSpace).rtakeWhile isSpace = cs.dropWhile isSpace :=
    List.rdropWhile_append_rtakeWhile
  refine ⟨⟨cs.takeWhile isSpace, (cs.dropWhile isSpace).rtakeWhile isSpace, ?_, ?_⟩, ?_⟩
  · rw [List.append_assoc, hsplit, List.takeWhile_append_dropWhile]
  · intro c hc
    rcases List.mem_append.mp hc with hc | hc
    · exact List.mem_takeWhile_imp hc
    · exact List.mem_rtakeWhile_imp hc
  · rintro c (hc | hc)
    · -- what is left begins where the text without the space before it begins
      have hhead := List.head?_dropWhile_not isSpace cs
      rw [← hsplit, List.head?_append_of_ne_nil _ (by rintro hnil; simp [hnil] at hc), hc] at hhead
      exact hhead
    · obtain ⟨hne, rfl⟩ := List.mem_getLast?_eq_getLast hc
      exact Bool.eq_false_iff.mpr (List.rdropWhile_last_not isSpace (cs.dropWhile isSpace) hne)

theorem trimsTo_iff {cs core : List Char} : TrimsTo cs core ↔ trimList cs = core := by
  constructor
  · exact TrimsTo.trimList_eq
  · rintro rfl
    exact trimsTo_trimList cs

/-- Characters may be exchanged as long as white space stays white space. -/
theorem trimList_map {f : Char → Char} (hf : ∀ c, isSpace (f c) = isSpace c) (cs : List Char) :
    trimList (cs.map f) = (trimList cs).map f := by
  have hcomp : isSpace ∘ f = isSpace := funext hf
  simp only [trimList, trimEnd, List.dropWhile_map, ← List.map_reverse, hcomp]

end Vitae.Text

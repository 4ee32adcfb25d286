import Mathlib.Data.List.Basic
import Vitae.Text.Escape

/-! # Entities

The substitutions that keep a text from being read as markup amount to one pass over its
characters. None of the characters that markup keeps for itself is left, and nothing is lost:
reading the entities back gives the text. -/

namespace Vitae.Text

/-- The characters that markup keeps for itself. -/
def reserved : List Char := ['&', '<', '>', '"', '\'']

/-- What markup writes for a character. -/
def entity (c : Char) : List Char :=
  if c = '&' then "&amp;".toList
  else if c = '<' then "&lt;".toList
  else if c = '>' then "&gt;".toList
  else if c = '"' then "&quot;".toList
  else if c = '\'' then "&#39;".toList
  else [c]

theorem mem_reserved {c : Char} :
    c ∈ reserved ↔ c = '&' ∨ c = '<' ∨ c = '>' ∨ c = '"' ∨ c = '\'' := by
  simp [reserved]

theorem entity_of_notMem {c : Char} (h : c ∉ reserved) : entity c = [c] := by
  simp only [mem_reserved, not_or] at h
  obtain ⟨hamp, hlt, hgt, hquot, hapos⟩ := h
  simp only [entity, hamp, hlt, hgt, hquot, hapos, if_false]

/-- No substitution touches what an earlier one has written. -/
theorem toList_escapeHtml (s : String) : (escapeHtml s).toList = s.toList.flatMap entity := by
  simp only [escapeHtml, substitute, String.toList_ofList, List.flatMap_assoc]
  refine List.flatMap_congr fun c _ => ?_
  by_cases h : c ∈ reserved
  · rcases mem_reserved.mp h with rfl | rfl | rfl | rfl | rfl <;> decide
  · rw [entity_of_notMem h]
    simp only [mem_reserved, not_or] at h
    simp only [h, if_false, List.flatMap_singleton]

@[simp]
theorem escapeHtml_empty : escapeHtml "" = "" := rfl

theorem escapeHtml_append (s t : String) :
    escapeHtml (s ++ t) = escapeHtml s ++ escapeHtml t := by
  apply String.toList_injective
  simp [toList_escapeHtml]

theorem notMem_entity {c x : Char} (hc : c ∈ reserved) (hamp : c ≠ '&') : c ∉ entity x := by
  by_cases h : x ∈ reserved
  · have he : reserved.all fun x => reserved.all fun c => c = '&' ∨ c ∉ entity x := by decide
    simp only [List.all_eq_true, decide_eq_true_eq] at he
    exact (he x h c hc).resolve_left hamp
  · rw [entity_of_notMem h, List.mem_singleton]
    exact fun hcx => h (hcx ▸ hc)

/-- Only `&` may stand in a text that is written for markup. -/
theorem notMem_escapeHtml {c : Char} (hc : c ∈ reserved) (hamp : c ≠ '&') (s : String) :
    c ∉ (escapeHtml s).toList := by
  rw [toList_escapeHtml, List.mem_flatMap]
  rintro ⟨x, -, hx⟩
  exact notMem_entity hc hamp hx

theorem escapeHtml_eq_self {s : String} (h : ∀ c ∈ reserved, c ∉ s.toList) : escapeHtml s = s := by
  have he : ∀ c ∈ s.toList, entity c = [c] := fun c hc => entity_of_notMem fun hr => h c hr hc
  apply String.toList_injective
  rw [toList_escapeHtml, List.flatMap_congr he, List.flatMap_singleton']

/-! ## Reading entities -/

def unescape : List Char → List Char
  | '&' :: 'a' :: 'm' :: 'p' :: ';' :: cs => '&' :: unescape cs
  | '&' :: 'l' :: 't' :: ';' :: cs => '<' :: unescape cs
  | '&' :: 'g' :: 't' :: ';' :: cs => '>' :: unescape cs
  | '&' :: 'q' :: 'u' :: 'o' :: 't' :: ';' :: cs => '"' :: unescape cs
  | '&' :: '#' :: '3' :: '9' :: ';' :: cs => '\'' :: unescape cs
  | c :: cs => c :: unescape cs
  | [] => []

theorem unescape_cons {c : Char} (h : c ≠ '&') (cs : List Char) :
    unescape (c :: cs) = c :: unescape cs := by
  rw [unescape] <;> simp [h]

theorem unescape_entity_append (c : Char) (cs : List Char) :
    unescape (entity c ++ cs) = c :: unescape cs := by
  by_cases h : c ∈ reserved
  · rcases mem_reserved.mp h with rfl | rfl | rfl | rfl | rfl <;> simp [entity, unescape]
  · rw [entity_of_notMem h, List.singleton_append]
    exact unescape_cons (fun hc => h (mem_reserved.mpr (.inl hc))) cs

theorem unescape_escapeHtml (s : String) : unescape (escapeHtml s).toList = s.toList := by
  rw [toList_escapeHtml]
  induction s.toList with
  | nil => rfl
  | cons c cs ih => rw [List.flatMap_cons, unescape_entity_append, ih]

theorem toList_escapeHtml_eq_nil_iff {s : String} : (escapeHtml s).toList = [] ↔ s = "" := by
  constructor
  · intro h
    have hs := unescape_escapeHtml s
    rw [h, unescape] at hs
    exact String.toList_eq_nil_iff.mp hs.symm
  · rintro rfl
    rfl

/-! ## Values between double quotes -/

/-- What must not stand as it is between double quotes. -/
def unquotable : List Char := ['&', '<', '"']

def quotedEntity (c : Char) : List Char := if c ∈ unquotable then entity c else [c]

theorem mem_unquotable {c : Char} : c ∈ unquotable ↔ c = '&' ∨ c = '<' ∨ c = '"' := by
  simp [unquotable]

theorem toList_escapeAttribute (s : String) :
    (escapeAttribute s).toList = s.toList.flatMap quotedEntity := by
  simp only [escapeAttribute, substitute, String.toList_ofList, List.flatMap_assoc]
  refine List.flatMap_congr fun c _ => ?_
  by_cases h : c ∈ unquotable
  · rcases mem_unquotable.mp h with rfl | rfl | rfl <;> decide
  · rw [quotedEntity, if_neg h]
    simp only [mem_unquotable, not_or] at h
    simp only [h, if_false, List.flatMap_singleton]

theorem notMem_escapeAttribute {c : Char} (hc : c ∈ unquotable) (hamp : c ≠ '&') (s : String) :
    c ∉ (escapeAttribute s).toList := by
  have hreserved : c ∈ reserved := by
    rcases mem_unquotable.mp hc with rfl | rfl | rfl <;> decide
  rw [toList_escapeAttribute, List.mem_flatMap]
  rintro ⟨x, -, hx⟩
  rw [quotedEntity] at hx
  split at hx
  · exact notMem_entity hreserved hamp hx
  · rename_i hne
    exact hne (List.mem_singleton.mp hx ▸ hc)

theorem escapeAttribute_eq_self {s : String} (h : ∀ c ∈ unquotable, c ∉ s.toList) :
    escapeAttribute s = s := by
  have he : ∀ c ∈ s.toList, quotedEntity c = [c] := fun c hc => if_neg fun hr => h c hr hc
  apply String.toList_injective
  rw [toList_escapeAttribute, List.flatMap_congr he, List.flatMap_singleton']

/-- A reader that knows all the entities gets the value back from those that are written. -/
theorem unescape_escapeAttribute (s : String) :
    unescape (escapeAttribute s).toList = s.toList := by
  rw [toList_escapeAttribute]
  induction s.toList with
  | nil => rfl
  | cons c cs ih =>
    rw [List.flatMap_cons, quotedEntity]
    split
    · rw [unescape_entity_append, ih]
    · rename_i hne
      have hamp : c ≠ '&' := fun hc => hne (hc ▸ List.mem_cons_self)
      rw [List.singleton_append, unescape_cons hamp, ih]

end Vitae.Text

/-! # Words

Texts of ASCII letters, digits, hyphens and underscores. Nothing that separates the names of a page
or a stylesheet from each other can stand in one. -/

namespace Vitae.Text

def isWordChar (c : Char) : Bool := c.isAlphanum || c == '-' || c == '_'

/-- The empty text is a word as well. -/
def IsWord (s : String) : Prop := s.toList.all isWordChar = true

instance (s : String) : Decidable (IsWord s) := inferInstanceAs (Decidable (_ = true))

theorem IsWord.append {s t : String} (hs : IsWord s) (ht : IsWord t) : IsWord (s ++ t) := by
  simp only [IsWord, String.toList_append, List.all_append, Bool.and_eq_true]
  exact ⟨hs, ht⟩

/-- A character of no word does not occur in a word. -/
theorem IsWord.not_mem {s : String} (hs : IsWord s) {c : Char} (hc : isWordChar c = false) :
    c ∉ s.toList := by
  intro hm
  have := List.all_eq_true.mp hs c hm
  rw [hc] at this
  cases this

end Vitae.Text

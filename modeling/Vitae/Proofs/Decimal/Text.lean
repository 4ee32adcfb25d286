import Mathlib.Data.List.Basic
import Vitae.Decimal.Text

/-! # The characters of decimals

Whatever number is written, in whatever style, only letters, digits, points and signs are. -/

namespace Vitae.Decimal

def isDecimalChar (c : Char) : Bool := c.isAlphanum || c == '.' || c == '-' || c == '+'

def IsDecimal (cs : List Char) : Prop := ∀ c ∈ cs, isDecimalChar c = true

instance (cs : List Char) : Decidable (IsDecimal cs) := List.decidableBAll _ cs

variable {cs ds : List Char} {pointed : Bool}

theorem isDecimal_append : IsDecimal (cs ++ ds) ↔ IsDecimal cs ∧ IsDecimal ds :=
  List.forall_mem_append

theorem isDecimal_cons {c : Char} :
    IsDecimal (c :: cs) ↔ isDecimalChar c = true ∧ IsDecimal cs := List.forall_mem_cons

theorem isDecimal_toDigits (n : Nat) : IsDecimal (Nat.toDigits 10 n) := by
  intro c hc
  have hdigit : c.isDigit = true := Nat.isDigit_of_mem_toDigits (by omega) (by omega) hc
  simp [isDecimalChar, Char.isAlphanum, hdigit]

theorem isDecimal_zeros (n : Nat) : IsDecimal (zeros n) := by
  intro c hc
  rw [List.eq_of_mem_replicate hc]
  rfl

theorem isDecimal_positional (h : IsDecimal ds) (power : Int) :
    IsDecimal (positional pointed ds power) := by
  have htake : ∀ n, IsDecimal (ds.take n) := fun n c hc => h c (List.mem_of_mem_take hc)
  have hdrop : ∀ n, IsDecimal (ds.drop n) := fun n c hc => h c (List.mem_of_mem_drop hc)
  unfold positional
  split
  · have hend : IsDecimal (if pointed then ['.', '0'] else []) := by split <;> decide
    exact isDecimal_append.mpr ⟨isDecimal_append.mpr ⟨h, isDecimal_zeros _⟩, hend⟩
  · dsimp only
    split
    · exact isDecimal_append.mpr ⟨htake _, isDecimal_cons.mpr ⟨rfl, hdrop _⟩⟩
    · have hrest := isDecimal_append.mpr ⟨isDecimal_zeros (power.natAbs - ds.length), h⟩
      exact isDecimal_cons.mpr ⟨rfl, isDecimal_cons.mpr ⟨rfl, hrest⟩⟩

theorem isDecimal_exponential (h : IsDecimal ds) (first : Int) :
    IsDecimal (exponential ds first) := by
  have htake : IsDecimal (ds.take 1) := fun c hc => h c (List.mem_of_mem_take hc)
  have hdrop : IsDecimal (ds.drop 1) := fun c hc => h c (List.mem_of_mem_drop hc)
  have hlead : IsDecimal (if ds.length = 1 then [] else '.' :: ds.drop 1) := by
    split
    · decide
    · exact isDecimal_cons.mpr ⟨rfl, hdrop⟩
  have hsign : isDecimalChar (if first < 0 then '-' else '+') = true := by split <;> rfl
  unfold exponential
  exact isDecimal_append.mpr ⟨isDecimal_append.mpr ⟨htake, hlead⟩, isDecimal_cons.mpr
    ⟨rfl, isDecimal_cons.mpr ⟨hsign, isDecimal_toDigits _⟩⟩⟩

/-- This holds of the names of what is no finite number too. -/
theorem isDecimal_write (style : NumberStyle) (x : Float) : IsDecimal (write style x).toList := by
  unfold write
  split
  · decide
  · rw [String.toList_ofList]
    have hsign : IsDecimal (if x.toBits.toNat >>> 63 = 1 then ['-'] else []) := by
      split <;> decide
    refine isDecimal_append.mpr ⟨hsign, ?_⟩
    split
    · decide
    · split
      · exact isDecimal_positional (by decide) 0
      · dsimp only
        split
        · exact isDecimal_positional (isDecimal_toDigits _) _
        · split
          · exact isDecimal_positional (isDecimal_toDigits _) _
          · exact isDecimal_exponential (isDecimal_toDigits _) _

/-- What separates the parts of a tag or stands for a character in markup is in no number. -/
theorem notMem_write {c : Char} (hc : isDecimalChar c = false) (style : NumberStyle) (x : Float) :
    c ∉ (write style x).toList := by
  intro hmem
  have hdecimal := isDecimal_write style x c hmem
  rw [hc] at hdecimal
  cases hdecimal

end Vitae.Decimal

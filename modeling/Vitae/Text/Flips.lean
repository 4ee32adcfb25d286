/-! A set of numbers, given by the places at which membership changes. -/

namespace Vitae.Text

/-- How many entries of an ascending table lie at or below `n`, when those below `lo` do and those
from `hi` on do not. -/
def countUpTo (table : Array Nat) (n : Nat) : (fuel lo hi : Nat) → Nat
  | 0, lo, _ => lo
  | fuel + 1, lo, hi =>
    if lo < hi then
      let mid := (lo + hi) / 2
      if table.getD mid 0 ≤ n then countUpTo table n fuel (mid + 1) hi
      else countUpTo table n fuel lo mid
    else lo

/-- Zero is no member unless the table begins with it. -/
def isFlipped (table : Array Nat) (n : Nat) : Bool :=
  countUpTo table n table.size 0 table.size % 2 == 1

end Vitae.Text

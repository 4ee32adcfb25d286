/-! The decimal that stands for a binary number: of all powers of ten whose multiples meet the
interval of reals that round to the number, the largest one is taken, and of its multiples in the
interval the nearest. So no decimal with fewer digits reads back as the same number. -/

namespace Vitae.Decimal

/-- A number and the reals that round to it, in quarters of `2 ^ exponent`; the ends of the
interval belong to it when `closed`. -/
structure Rounding where
  low : Nat
  value : Nat
  high : Nat
  exponent : Int
  closed : Bool
  deriving Repr

/-- The interval below a power of two is half as wide, the least exponent apart. -/
def Rounding.ofBits (bits : UInt64) : Rounding :=
  let field := (bits.toNat >>> 52) % (1 <<< 11)
  let fraction := bits.toNat % (1 <<< 52)
  let mantissa := if field = 0 then fraction else (1 <<< 52) + fraction
  let below := if fraction = 0 ∧ 1 < field then 1 else 2
  ⟨4 * mantissa - below, 4 * mantissa, 4 * mantissa + 2, (max field 1 : Nat) - 1075,
    mantissa % 2 = 0⟩

/-- A decimal `digits * 10 ^ power`. -/
structure Scaled where
  digits : Nat
  power : Int
  deriving DecidableEq, Repr

namespace Rounding

/-- With `k` the power of ten and quarters of `2 ^ exponent` as unit, `x` units are
`x * (scale k).1 / (scale k).2` multiples of `10 ^ k`. -/
def scale (r : Rounding) (k : Int) : Nat × Nat :=
  let two := r.exponent - 2
  (Nat.pow 10 (-k).toNat <<< two.toNat, Nat.pow 10 k.toNat <<< (-two).toNat)

def contains (r : Rounding) (k : Int) (d : Nat) : Bool :=
  let (a, b) := r.scale k
  if r.closed then r.low * a ≤ d * b && d * b ≤ r.high * a
  else r.low * a < d * b && d * b < r.high * a

/-- The multiple of `10 ^ k` to take, if the interval has one. -/
def multiple? (r : Rounding) (tieUp : Bool) (k : Int) : Option Nat :=
  let (a, b) := r.scale k
  let d := r.value * a / b
  match r.contains k d, r.contains k (d + 1) with
  | true, true =>
    let below := r.value * a - d * b
    let above := (d + 1) * b - r.value * a
    if below < above then some d
    else if above < below then some (d + 1)
    else if tieUp || d % 2 = 1 then some (d + 1)
    else some d
  | true, false => some d
  | false, true => some (d + 1)
  | false, false => none

/-- Powers from `k` downwards, `count` of them. -/
def search (r : Rounding) (tieUp : Bool) : (count : Nat) → (k : Int) → Scaled
  | 0, k => ⟨0, k⟩
  | count + 1, k =>
    match r.multiple? tieUp k with
    | some d => ⟨d, k⟩
    | none => r.search tieUp count (k - 1)

end Rounding

/-- For a number above zero. A half way goes up if `tieUp` and to the even digit if not. No number
needs a power above `308`, and every one has a multiple of `10 ^ -324` in its interval or a coarser
one. -/
def shortest (tieUp : Bool) (x : Float) : Scaled :=
  (Rounding.ofBits x.toBits).search tieUp 634 309

end Vitae.Decimal

import Vitae.Json.Basic
import Vitae.Json.Cursor

/-! JSON numbers. Whole numbers of 64 bits stay whole. Any other number keeps the leading digits
that fit into 64 bits and is scaled by a power of ten in floating point, so its last digit may be
off by one from the nearest. -/

namespace Vitae.Json

structure Numeral where
  negative : Bool
  whole : List Char
  fraction : List Char
  /-- Whether the exponent is negative, and its digits. -/
  exponent : Option (Bool × List Char)

namespace Numeral

/-- Digits taken in as long as the number fits into 64 bits, and how many of them. -/
def gather (significand : Nat) : List Char → Nat × Nat
  | [] => (significand, 0)
  | c :: cs =>
    let grown := 10 * significand + (c.toNat - '0'.toNat)
    if grown < 1 <<< 64 then
      let (s, n) := gather grown cs
      (s, n + 1)
    else (significand, 0)

def powerOfTen (n : Nat) : Float := Float.ofScientific 1 false n

/-- `x * 10 ^ power` in one step, or in steps of 308 for smaller powers; `none` if infinite. -/
def scaled (x : Float) (power : Int) : (fuel : Nat) → Option Float
  | 0 => some x
  | fuel + 1 =>
    if 0 ≤ power then
      if power ≤ 308 then
        let y := x * powerOfTen power.natAbs
        if y.isInf then none else some y
      else if x == 0.0 then some x else none
    else if -308 ≤ power then some (x / powerOfTen power.natAbs)
    else if x == 0.0 then some x
    else scaled (x / powerOfTen 308) (power + 308) fuel

/-- Three steps of 308 take every significand to zero. -/
def magnitude? (n : Numeral) (significand : Nat) (power : Int) : Option Float :=
  let x := (UInt64.ofNat significand).toFloat
  match n.exponent with
  | none => scaled x power 5
  | some (negative, ds) =>
    let e := Decimal.digitsValue ds
    if 1 <<< 31 ≤ e then
      if significand ≠ 0 ∧ !negative then none else some 0.0
    else scaled x (power + if negative then -(e : Int) else e) 5

/-- The number that is written, unless it is beyond every finite one. -/
def value? (n : Numeral) : Option Json :=
  let (significand, taken) := gather 0 n.whole
  let isWhole := taken = n.whole.length ∧ n.fraction.isEmpty ∧ n.exponent.isNone
  if isWhole ∧ !n.negative then some (.int significand)
  else if isWhole ∧ 0 < significand ∧ significand ≤ 1 <<< 63 then some (.int (-(significand : Int)))
  else
    let (significand, places) := gather significand n.fraction
    (n.magnitude? significand ((n.whole.length - taken : Nat) - places)).map fun x =>
      .float (if n.negative then -x else x)

end Numeral

namespace Scan

/-- Digits without a leading zero. -/
def wholePart (atEnd : TextError) : Scan (List Char) := do
  match ← peek with
  | some '0' =>
    advance
    if (← peek).any Decimal.isDigit then throw .malformed
    return ['0']
  | _ => someDigits atEnd

def exponentPart (atEnd : TextError) : Scan (Bool × List Char) := do
  match ← peek with
  | some '-' =>
    advance
    return (true, ← someDigits atEnd)
  | some '+' =>
    advance
    return (false, ← someDigits atEnd)
  | _ => return (false, ← someDigits atEnd)

/-- A number, from its sign or first digit on. -/
def numeral (atEnd : TextError) : Scan Numeral := do
  let negative := (← peek) = some '-'
  if negative then advance
  let whole ← wholePart atEnd
  let fraction ← if (← peek) = some '.' then
    advance
    someDigits atEnd
  else pure []
  let exponent ← if (← peek).any fun c => c = 'e' || c = 'E' then
    advance
    pure (some (← exponentPart atEnd))
  else pure none
  return ⟨negative, whole, fraction, exponent⟩

def number : Scan Json := do
  match (← numeral .ended).value? with
  | some v => return v
  | none => throw .malformed

end Scan

end Vitae.Json

import Vitae.Decimal.Shortest

/-! How a number is written once its digits are chosen. -/

namespace Vitae.Decimal

/-- Numbers whose first digit stands for a power of ten within `fixed` are written out, others with
an exponent; `pointed` numbers never look like whole ones. -/
structure NumberStyle where
  tieUp : Bool
  fixed : Option (Int × Int)
  pointed : Bool

/-- A whole number has no point, and no number has an exponent. -/
def plainStyle : NumberStyle := ⟨true, none, false⟩

/-- As `plainStyle`, but a whole number ends in `.0`. -/
def pointedStyle : NumberStyle := ⟨true, none, true⟩

/-- Up to sixteen digits before the point and four zeros after it are written out. -/
def exponentStyle : NumberStyle := ⟨false, some (-5, 15), true⟩

def zeros (n : Nat) : List Char := List.replicate n '0'

/-- Digits `ds` with `power` zeros behind them, or a point `-power` places from their end. -/
def positional (pointed : Bool) (ds : List Char) (power : Int) : List Char :=
  if 0 ≤ power then ds ++ zeros power.toNat ++ (if pointed then ['.', '0'] else [])
  else
    let places := power.natAbs
    if places < ds.length then
      ds.take (ds.length - places) ++ '.' :: ds.drop (ds.length - places)
    else '0' :: '.' :: (zeros (places - ds.length) ++ ds)

def exponential (ds : List Char) (first : Int) : List Char :=
  let lead := ds.take 1 ++ (if ds.length = 1 then [] else '.' :: ds.drop 1)
  lead ++ 'e' :: (if first < 0 then '-' else '+') :: Nat.toDigits 10 first.natAbs

def write (style : NumberStyle) (x : Float) : String :=
  if x.isNaN then "NaN"
  else
    let sign := if x.toBits.toNat >>> 63 = 1 then ['-'] else []
    let body :=
      if x.isInf then ['i', 'n', 'f']
      else if x == 0.0 then positional style.pointed ['0'] 0
      else
        let d := shortest style.tieUp x.abs
        let ds := Nat.toDigits 10 d.digits
        let first := d.power + ds.length - 1
        match style.fixed with
        | none => positional style.pointed ds d.power
        | some (least, greatest) =>
          if least ≤ first ∧ first ≤ greatest then positional style.pointed ds d.power
          else exponential ds first
    String.ofList (sign ++ body)

end Vitae.Decimal

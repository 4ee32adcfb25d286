/-! Decimal numbers as they are read: the nearest binary number to the decimal that is written. -/

namespace Vitae.Decimal

def isDigit (c : Char) : Bool := '0' ≤ c && c ≤ '9'

def digitsValue (ds : List Char) : Nat := ds.foldl (fun n c => 10 * n + (c.toNat - '0'.toNat)) 0

/-- `digits * 10 ^ power`, to the nearest. Powers beyond every finite number are settled at once. -/
def toFloat (digits : Nat) (power : Int) : Float :=
  if digits = 0 then 0.0
  else
    let size := power + (Nat.toDigits 10 digits).length
    if 310 < size then 1.0 / 0.0
    else if size < -400 then 0.0
    else Float.ofScientific digits (power < 0) power.natAbs

/-- The parts of a decimal: digits before and behind the point, and the exponent. -/
structure Parts where
  whole : List Char
  fraction : List Char
  exponent : Int

def Parts.toFloat (p : Parts) : Float :=
  Decimal.toFloat (digitsValue (p.whole ++ p.fraction)) (p.exponent - p.fraction.length)

def signOf : List Char → Bool × List Char
  | '-' :: cs => (true, cs)
  | '+' :: cs => (false, cs)
  | cs => (false, cs)

/-- What follows the digits: nothing, or an exponent with digits to the end. -/
def exponent? : List Char → Option Int
  | [] => some 0
  | c :: cs =>
    if c = 'e' ∨ c = 'E' then
      let (negative, ds) := signOf cs
      if ds.isEmpty || !ds.all isDigit then none
      else some (if negative then -digitsValue ds else digitsValue ds)
    else none

/-- Digits with at most one point in or around them, and an exponent if there is one. -/
def parts? (cs : List Char) : Option Parts :=
  let whole := cs.takeWhile isDigit
  let rest := cs.dropWhile isDigit
  let (fraction, rest) :=
    match rest with
    | '.' :: cs => (cs.takeWhile isDigit, cs.dropWhile isDigit)
    | cs => ([], cs)
  if whole.isEmpty && fraction.isEmpty then none
  else (exponent? rest).map (⟨whole, fraction, ·⟩)

/-- A signed decimal, or a name for what is no finite number. -/
def read? (s : String) : Option Float :=
  let (negative, cs) := signOf s.toList
  let magnitude :=
    match String.ofList (cs.map Char.toLower) with
    | "inf" | "infinity" => some (1.0 / 0.0)
    | "nan" => some (0.0 / 0.0)
    | _ => (parts? cs).map Parts.toFloat
  magnitude.map fun x => if negative then -x else x

end Vitae.Decimal

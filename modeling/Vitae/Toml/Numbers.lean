import Vitae.Decimal.Read
import Vitae.Toml.Cursor

/-! Numbers, dates and times. Of a date or a time nothing is kept but that it is one. -/

namespace Vitae.Toml.Scan

open Decimal (isDigit digitsValue)

/-- Digits with single underscores between them. -/
def digitGroups (digit : Char → Bool) : (fuel : Nat) → Scan (List Char)
  | 0 => failure
  | fuel + 1 => do
    let cs ← spanWhile digit
    if cs.isEmpty then failure
    if ← accept "_" then return cs ++ (← digitGroups digit fuel) else return cs

/-- One zero, or digits that begin with none. -/
def wholeDigits : Scan (List Char) := do
  if ← accept "0" then return ['0']
  digitGroups isDigit (← bound)

def inRange64 (n : Int) : Bool := -(1 <<< 63 : Nat) ≤ n && n < (1 <<< 63 : Nat)

def radixValue (radix : Nat) (cs : List Char) : Nat :=
  cs.foldl (fun n c => radix * n +
    (if isDigit c then c.toNat - '0'.toNat else c.toLower.toNat - 'a'.toNat + 10)) 0

def isHexDigit (c : Char) : Bool := isDigit c || ('a' ≤ c.toLower && c.toLower ≤ 'f')

def isOctalDigit (c : Char) : Bool := '0' ≤ c && c ≤ '7'

def isBinaryDigit (c : Char) : Bool := c = '0' || c = '1'

def integer (n : Int) : Scan Scalar := if inRange64 n then return .integer n else failure

def radixInteger (radix : Nat) (digit : Char → Bool) : Scan Scalar := do
  integer (radixValue radix (← digitGroups digit (← bound)))

/-- Whether a number is negative, which its sign says if it has one. -/
def sign : Scan Bool := do
  if ← accept "-" then return true
  discard <| accept "+"
  return false

def fraction? : Scan (Option (List Char)) := do
  if ← accept "." then return some (← digitGroups isDigit (← bound))
  return none

def exponent? : Scan (Option Int) := do
  if ← acceptEither "e" "E" then
    let negative ← sign
    let n := digitsValue (← digitGroups isDigit (← bound))
    return some (if negative then -n else n)
  return none

/-- A number above every finite one is refused; one below is not. -/
def signedFloat (negative : Bool) (parts : Decimal.Parts) : Scan Scalar := do
  let x := parts.toFloat
  if x.isInf && !negative then failure
  return .float (if negative then -x else x)

def nonFinite? (negative : Bool) : Scan (Option Scalar) := do
  let signed (x : Float) : Scalar := .float (if negative then -x else x)
  if ← accept "inf" then return some (signed (1.0 / 0.0))
  if ← accept "nan" then return some (signed (0.0 / 0.0))
  return none

def decimalNumber : Scan Scalar := do
  let negative ← sign
  if let some x ← nonFinite? negative then return x
  let whole ← wholeDigits
  let fraction ← fraction?
  let exponent ← exponent?
  if fraction.isNone && exponent.isNone then
    let n := digitsValue whole
    integer (if negative then -n else n)
  else signedFloat negative ⟨whole, fraction.getD [], exponent.getD 0⟩

def number : Scan Scalar := do
  if ← accept "0x" then radixInteger 16 isHexDigit
  else if ← accept "0o" then radixInteger 8 isOctalDigit
  else if ← accept "0b" then radixInteger 2 isBinaryDigit
  else decimalNumber

/-- Exactly `n` digits, for a number from `low` to `high`. -/
def fixedDigits (n low high : Nat) : Scan Nat := do
  let cs := (← get).rest.take n
  if cs.length < n || !cs.all isDigit then failure
  drop n
  let v := digitsValue cs
  if low ≤ v && v ≤ high then return v else failure

def daysInMonth (year month : Nat) : Nat :=
  if month = 2 then
    if year % 4 = 0 ∧ (year % 100 ≠ 0 ∨ year % 400 = 0) then 29 else 28
  else if month = 4 ∨ month = 6 ∨ month = 9 ∨ month = 11 then 30
  else 31

def date : Scan Unit := do
  let year ← fixedDigits 4 0 9999
  expect "-"
  let month ← fixedDigits 2 1 12
  expect "-"
  discard <| fixedDigits 2 1 (daysInMonth year month)

def time : Scan Unit := do
  discard <| fixedDigits 2 0 23
  expect ":"
  discard <| fixedDigits 2 0 59
  expect ":"
  discard <| fixedDigits 2 0 60
  if ← accept "." then
    let cs ← spanWhile isDigit
    if cs.isEmpty then failure

def utcOffset : Scan Unit := do
  if ← acceptEither "Z" "z" then return
  if ← acceptEither "+" "-" then
    discard <| fixedDigits 2 0 23
    expect ":"
    discard <| fixedDigits 2 0 59

def startsDate (cs : List Char) : Bool :=
  (cs.take 4).length = 4 && (cs.take 4).all isDigit && cs[4]? = some '-'

def startsTime (cs : List Char) : Bool :=
  (cs.take 2).length = 2 && (cs.take 2).all isDigit && cs[2]? = some ':'

/-- A date may be followed by a time; after a space it is one only if it looks like one. -/
def datetime : Scan Scalar := do
  date
  let separated := (← peek).any fun c => c = 'T' || c = 't' || c = ' '
  if separated && startsTime ((← get).rest.drop 1) then
    advance
    time
    utcOffset
  return .datetime

/-- What begins with a digit or a sign. -/
def numberOrDate : Scan Scalar := do
  let cs := (← get).rest
  if startsDate cs then datetime
  else if startsTime cs then
    time
    return .datetime
  else number

end Vitae.Toml.Scan

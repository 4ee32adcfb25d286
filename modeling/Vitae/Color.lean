import Vitae.Text.Blank

/-! Colors of 24 bits, written `#rrggbb`. A lighter or darker shade moves every channel by one
and the same step and stops at either end of its range. -/

namespace Vitae

structure HexColor where
  red : UInt8
  green : UInt8
  blue : UInt8
  deriving DecidableEq, Repr, Inhabited

/-- Both name the text as it was given. -/
inductive ColorError where
  | notHexadecimal (value : String)
  | wrongLength (value : String) (digits : Nat)
  deriving DecidableEq, Repr

def ColorError.message : ColorError → String
  | notHexadecimal value => s!"invalid color '{value}': expected hexadecimal digits"
  | wrongLength value digits =>
    s!"invalid color '{value}': expected 3 or 6 hex digits, found {digits}"

namespace HexColor

def digitValue? (c : Char) : Option Nat :=
  if '0' ≤ c ∧ c ≤ '9' then some (c.toNat - '0'.toNat)
  else if 'a' ≤ c ∧ c ≤ 'f' then some (c.toNat - 'a'.toNat + 10)
  else if 'A' ≤ c ∧ c ≤ 'F' then some (c.toNat - 'A'.toNat + 10)
  else none

/-- White space around it and one leading `#` do not belong to the digits. -/
def digitsOf (value : String) : List Char :=
  match Text.trimList value.toList with
  | '#' :: cs => cs
  | cs => cs

/-- `rrggbb`, or `rgb` with every digit standing for two of its kind. -/
def parse (value : String) : Except ColorError HexColor :=
  let cs := digitsOf value
  match cs.mapM digitValue? with
  | none => .error (.notHexadecimal value)
  | some [r, g, b] => .ok ⟨.ofNat (17 * r), .ofNat (17 * g), .ofNat (17 * b)⟩
  | some [r₁, r₀, g₁, g₀, b₁, b₀] =>
    .ok ⟨.ofNat (16 * r₁ + r₀), .ofNat (16 * g₁ + g₀), .ofNat (16 * b₁ + b₀)⟩
  | some ds => .error (.wrongLength value ds.length)

def channelText (c : UInt8) : List Char :=
  [Nat.digitChar (c.toNat / 16), Nat.digitChar (c.toNat % 16)]

def toHex (c : HexColor) : String :=
  String.ofList ('#' :: (channelText c.red ++ channelText c.green ++ channelText c.blue))

/-- One channel, moved by `step` and kept within a byte. -/
def shiftChannel (step : Int) (c : UInt8) : UInt8 :=
  .ofNat (min 255 (max 0 (c.toNat + step))).toNat

def shift (step : Int) (c : HexColor) : HexColor :=
  ⟨shiftChannel step c.red, shiftChannel step c.green, shiftChannel step c.blue⟩

/-- The step for a share of the channel's range, to the nearest whole number, a half away from
zero. No step leaves `-255` to `255`, and what is not a number is no step. -/
def step (percent : Float) : Int :=
  let amount := percent * 255.0 / 100.0
  let whole := amount.abs.toUInt8
  let size := if 0.5 ≤ amount.abs - whole.toFloat then whole.toNat + 1 else whole.toNat
  if amount < 0.0 then -(min 255 size : Nat) else (min 255 size : Nat)

def lighten (percent : Float) (c : HexColor) : HexColor := c.shift (step percent)

def darken (percent : Float) (c : HexColor) : HexColor := c.lighten (-percent)

end HexColor

end Vitae

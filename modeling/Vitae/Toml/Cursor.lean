import Vitae.Toml.Basic

/-! Reading TOML text from left to right, with the number of bytes read so far. A text that is no
TOML is refused without a reason. -/

namespace Vitae.Toml

structure Cursor where
  rest : List Char
  offset : Nat

abbrev Scan := StateT Cursor Option

namespace Scan

def advance : Scan Unit := modify fun cursor =>
  match cursor.rest with
  | [] => cursor
  | c :: rest => ⟨rest, cursor.offset + c.utf8Size⟩

def peek : Scan (Option Char) := return (← get).rest.head?

def offset : Scan Nat := return (← get).offset

/-- More steps than any loop over the rest of the text takes. -/
def bound : Scan Nat := return (← get).rest.length + 1

def startsWith (s : String) : Scan Bool := return s.toList.isPrefixOf (← get).rest

def drop : (n : Nat) → Scan Unit
  | 0 => return
  | n + 1 => do
    advance
    drop n

def accept (s : String) : Scan Bool := do
  if ← startsWith s then
    drop s.length
    return true
  return false

/-- The first of two marks, or else the second. -/
def acceptEither (s t : String) : Scan Bool := do
  if ← accept s then return true
  accept t

def expect (s : String) : Scan Unit := do
  if !(← accept s) then failure

/-- Characters as long as `p` holds of them. -/
def spanWhile (p : Char → Bool) : Scan (List Char) := do
  let cs := (← get).rest.takeWhile p
  drop cs.length
  return cs

def isBlank (c : Char) : Bool := c = ' ' || c = '\t'

def blanks : Scan Unit := do discard <| spanWhile isBlank

/-- No control character but the tab. -/
def isPlain (c : Char) : Bool := c = '\t' || (0x20 ≤ c.toNat && c.toNat ≠ 0x7f)

def newline : Scan Bool := acceptEither "\n" "\r\n"

def comment : Scan Unit := do
  if (← peek) = some '#' then discard <| spanWhile isPlain

/-- What may follow on a line that says all it has to say. -/
def lineEnd : Scan Unit := do
  blanks
  comment
  if !(← newline) && (← peek).isSome then failure

/-- Blanks, comments and line ends. -/
def padding : (fuel : Nat) → Scan Unit
  | 0 => return
  | fuel + 1 => do
    blanks
    if (← peek) = some '#' then
      comment
      if ← newline then padding fuel else failure
    else if ← newline then padding fuel

end Scan

end Vitae.Toml

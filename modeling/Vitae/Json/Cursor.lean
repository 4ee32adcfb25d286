import Vitae.Decimal.Read
import Vitae.Shape.Misfit

/-! Reading JSON text from left to right. The reader stands at a place in the text and fails with
the first problem it meets: text that ends too early, text that is no JSON, or JSON that does not
fit what is wanted, together with the place where that shows. -/

namespace Vitae.Json

/-- A line, from one, and how many bytes of it have been read. -/
structure Place where
  line : Nat
  column : Nat
  deriving DecidableEq, Repr, Inhabited

inductive TextError where
  | ended
  | malformed
  | misfit (what : Misfit) (place : Option Place)

def TextError.message? : TextError → Option String
  | misfit what place =>
    some <| what.message Decimal.exponentStyle ++
      place.elim "" fun p => s!" at line {p.line} column {p.column}"
  | _ => none

structure Cursor where
  rest : List Char
  place : Place

abbrev Scan := StateT Cursor (Except TextError)

namespace Scan

def advance : Scan Unit := modify fun cursor =>
  match cursor.rest with
  | [] => cursor
  | c :: rest =>
    ⟨rest, if c = '\n' then ⟨cursor.place.line + 1, 0⟩
      else ⟨cursor.place.line, cursor.place.column + c.utf8Size⟩⟩

def peek : Scan (Option Char) := return (← get).rest.head?

def next : Scan (Option Char) := do
  let c ← peek
  advance
  return c

/-- More steps than any loop over the rest of the text takes. -/
def bound : Scan Nat := return (← get).rest.length + 1

def isSpace (c : Char) : Bool := c = ' ' || c = '\t' || c = '\n' || c = '\r'

def skipSpaces : (fuel : Nat) → Scan Unit
  | 0 => return
  | fuel + 1 => do
    if (← peek).any isSpace then
      advance
      skipSpaces fuel

/-- The next character that is not white space. -/
def token : Scan (Option Char) := do
  skipSpaces (← bound)
  peek

def failHere {α : Type} (what : Misfit) : Scan α := do
  throw (.misfit what (some (← get).place))

/-- The rest of a word whose first letter has been read. -/
def word : List Char → Scan Unit
  | [] => return
  | c :: cs => do
    match ← next with
    | none => throw .ended
    | some d => if d = c then word cs else throw .malformed

def digits : (fuel : Nat) → Scan (List Char)
  | 0 => return []
  | fuel + 1 => do
    match ← peek with
    | some c =>
      if Decimal.isDigit c then
        advance
        return c :: (← digits fuel)
      else return []
    | none => return []

/-- One digit or more; `atEnd` tells what a text that ends instead is. -/
def someDigits (atEnd : TextError) : Scan (List Char) := do
  match ← digits (← bound) with
  | [] => if (← peek).isNone then throw atEnd else throw .malformed
  | ds => return ds

end Scan

end Vitae.Json

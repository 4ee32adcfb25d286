/-! TOML documents as trees. Every part keeps the span of bytes it was written in, so that what is
wrong with it can be shown there. -/

namespace Vitae

/-- Bytes from `start` up to `stop`. -/
structure Span where
  start : Nat
  stop : Nat
  deriving DecidableEq, Repr, Inhabited

namespace Toml

structure Key where
  name : String
  span : Span
  deriving DecidableEq, Repr, Inhabited

inductive Scalar where
  | string (s : String)
  | integer (n : Int)
  | float (x : Float)
  | boolean (b : Bool)
  | datetime

/-- How a table came about. A table that a longer header or a dotted key made on its way may still
be added to in the same manner. -/
inductive TableForm where
  | inline
  | header
  | onTheWay
  | dotted
  deriving DecidableEq, Repr

def TableForm.isImplicit : TableForm → Bool
  | onTheWay | dotted => true
  | inline | header => false

end Toml

inductive Toml where
  | scalar (span : Span) (value : Toml.Scalar)
  | array (span : Span) (items : List Toml)
  /-- Tables under one `[[header]]`. -/
  | tables (span : Span) (items : List Toml)
  | table (span : Span) (form : Toml.TableForm) (entries : List (Toml.Key × Toml))
  deriving Inhabited

def Toml.span : Toml → Span
  | scalar span _ | array span _ | tables span _ | table span _ _ => span

/-- The text that is a value and no more. A table that is only named on the way to another has
none; its span is that of its name. -/
def Toml.ownSpan? : Toml → Option Span
  | table span form _ => if form.isImplicit then none else some span
  | t => some t.span

end Vitae

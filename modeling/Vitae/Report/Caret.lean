import Vitae.Shape.TomlTree

/-! A fault in a TOML text, shown under the line it stands in. -/

namespace Vitae.Report

/-- Lines and columns from zero; a column counts characters. -/
structure Place where
  line : Nat
  column : Nat
  deriving DecidableEq, Repr

/-- The place that is `bytes` further on in the text. -/
def placeAfter (bytes : Nat) : List Char → Place → Place
  | [], p => p
  | c :: cs, p =>
    if bytes = 0 then p
    else placeAfter (bytes - c.utf8Size) cs
      (if c = '\n' then ⟨p.line + 1, 0⟩ else ⟨p.line, p.column + 1⟩)

/-- The lines of a text, without the `\n` between them. -/
def linesOf : List Char → List (List Char)
  | [] => [[]]
  | c :: cs =>
    if c = '\n' then [] :: linesOf cs
    else match linesOf cs with
      | l :: ls => (c :: l) :: ls
      | [] => [[c]]

/-- At least one mark, and none beyond the end of the line. -/
def markLength (span : Span) (place : Place) (line : String) : Nat :=
  max 1 (min (span.stop - span.start) (line.utf8ByteSize - place.column))

def repeated (c : Char) (n : Nat) : String := String.ofList (List.replicate n c)

/-- The line with its number, marks under the span, and the reason. -/
def caret (source : String) (span : Span) (reason : String) : String :=
  let place := placeAfter span.start source.toList ⟨0, 0⟩
  let line := String.ofList ((linesOf source.toList).getD place.line [])
  let number := toString (place.line + 1)
  let margin := repeated ' ' (number.length + 1) ++ "|"
  s!"TOML parse error at line {number}, column {place.column + 1}\n" ++
    margin ++ "\n" ++
    number ++ " | " ++ line ++ "\n" ++
    margin ++ repeated ' ' (place.column + 1) ++ repeated '^' (markLength span place line) ++
    "\n" ++ reason ++ "\n"

end Vitae.Report

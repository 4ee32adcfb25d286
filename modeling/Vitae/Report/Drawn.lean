import Vitae.Report.Caret
import Vitae.Text.Blank
import Vitae.Text.Width

/-! A fault drawn into its text, with a frame and an arrow to the reason. The numbers of the span are
taken as numbers of characters. -/

namespace Vitae.Report

/-- A line with the characters that end it, and the number of characters before it. -/
structure Line where
  start : Nat
  chars : List Char
  deriving Repr

def Line.stop (l : Line) : Nat := l.start + l.chars.length

/-- What is shown of a line: all but the white space at its end. -/
def Line.shown (l : Line) : List Char := Text.trimEnd l.chars

def endsLine (c : Char) : Bool :=
  c = '\n' || c = '\r' || c = '\x0b' || c = '\x0c' || c = '\u0085' || c = '\u2028' || c = '\u2029'

/-- A carriage return and the line feed behind it end one line. -/
def drawnLines (start : Nat) (line : List Char) : List Char → List Line
  | [] => if line.isEmpty then [] else [⟨start, line.reverse⟩]
  | '\r' :: '\n' :: cs =>
    let l : Line := ⟨start, ('\n' :: '\r' :: line).reverse⟩
    l :: drawnLines l.stop [] cs
  | c :: cs =>
    if endsLine c then
      let l : Line := ⟨start, (c :: line).reverse⟩
      l :: drawnLines l.stop [] cs
    else drawnLines start (c :: line) cs

/-- The line with a character and its number from zero. What is just behind the text belongs to the
last line. -/
def lineAt? (lines : List Line) (offset : Nat) : Option (Nat × Line) :=
  if (lines.getLast?.map Line.stop).any (offset ≤ ·) then
    let i := (lines.takeWhile (·.start ≤ offset)).length - 1
    lines[i]?.map (i, ·)
  else none

/-- What stands for a character, and in how many columns. A tab reaches to the next multiple of
four. -/
def cell (c : Char) (column : Nat) : Char × Nat :=
  if c = '\t' then (' ', (column / 4 + 1) * 4 - column)
  else if Text.isSpace c then (' ', 1)
  else (c, Text.columnsOf c)

def cells (l : Line) : List (Char × Nat) := l.shown.mapIdx fun i c => cell c i

def drawnText (l : Line) : String :=
  String.ofList <| (cells l).flatMap fun (c, width) =>
    if c = ' ' then List.replicate width ' ' else [c]

/-- A row under a line. Each of `count` places has a mark for its first column and another for the
rest. -/
def row (l : Line) (count : Nat) (mark : Nat → Char × Char) : String :=
  let widths := (cells l).map Prod.snd
  String.ofList <| (List.range count).flatMap fun i =>
    let (first, rest) := mark i
    match widths.getD i 1 with
    | 0 => []
    | width + 1 => first :: List.replicate width rest

/-- The margin of a line with its number, and of rows without one. -/
def numbered (width number : Nat) : String :=
  let n := toString number
  " " ++ repeated ' ' (width - n.length) ++ n ++ " │ "

def unnumbered (width : Nat) (bar : Char) : String :=
  repeated ' ' (width + 2) ++ String.ofList [bar, ' ']

/-- A span within one line. An empty one has no line under it for the arrow to start from. -/
def drawnInline (width number : Nat) (l : Line) (span : Span) (reason : String) : String :=
  let middle := (span.start + span.stop) / 2 - l.start
  let count := span.stop - l.start + 2
  let within (i : Nat) : Bool := span.start ≤ l.start + i && l.start + i < span.stop
  let above (i : Nat) : Char × Char :=
    if i = middle then (if within i then ('┬', '─') else ('│', ' '))
    else if within i then ('─', '─') else (' ', ' ')
  let below (i : Nat) : Char × Char :=
    if i = middle then ('╰', '─') else if middle < i then ('─', '─') else (' ', ' ')
  if l.stop < span.stop then unnumbered width '│' ++ "\n"
  else
    numbered width number ++ drawnText l ++ "\n" ++
      unnumbered width '│' ++ row l count above ++ "\n" ++
      unnumbered width '│' ++ row l count below ++ " " ++ reason ++ "\n"

/-- A span over several lines, of which only the first and the last are shown. One that ends behind
the last line is left open: neither that line nor the reason is shown. -/
def drawnMultiline (width i j : Nat) (first last : Line) (span : Span) (reason : String) : String :=
  let count := last.chars.length + 2
  let isOpen := last.stop < span.stop
  numbered width (i + 1) ++ "╭─▶ " ++ drawnText first ++ "\n" ++
    (if i + 1 < j || isOpen then unnumbered width '┆' ++ "┆   \n" else "") ++
    if isOpen then ""
    else
      numbered width (j + 1) ++ "├─▶ " ++ drawnText last ++ "\n" ++
        unnumbered width '│' ++ "│   " ++ row last count (fun _ => (' ', ' ')) ++ "\n" ++
        unnumbered width '│' ++ "╰───" ++ row last count (fun _ => ('─', '─')) ++ " " ++ reason ++
        "\n"

/-- The reason alone where the span is outside of the text. -/
def drawn (source filename : String) (span : Span) (reason : String) : String :=
  let head := "Error: " ++ reason ++ "\n"
  let lines := drawnLines 0 [] source.toList
  match lineAt? lines span.start, lineAt? lines (max span.start (span.stop - 1)) with
  | some (i, first), some (j, last) =>
    let width := (toString (j + 1)).length
    let indent := repeated ' ' (width + 2)
    head ++ indent ++ s!"╭─[{filename}:{i + 1}:{span.start - first.start + 1}]\n" ++
      indent ++ "│\n" ++
      (if i = j then drawnInline width (i + 1) first span reason
        else drawnMultiline width i j first last span reason) ++
      repeated '─' (width + 2) ++ "╯\n"
  | _, _ => head

end Vitae.Report

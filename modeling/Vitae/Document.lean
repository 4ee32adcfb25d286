import Vitae.Text.Escape

/-! A page of its own: a fragment with its stylesheet in the head. -/

namespace Vitae

inductive Medium where
  | screen
  /-- A sheet of A4 without margins, in exact colors. -/
  | print
  deriving DecidableEq, Repr, Inhabited

structure DocumentOptions where
  title : String := "Resume"
  medium : Medium := .screen
  deriving DecidableEq, Repr, Inhabited

namespace Document

def pageRules : Medium → String
  | .screen => ""
  | .print =>
    "@page \x7b\n  size: A4;\n  margin: 0;\n\x7d\n" ++
    "html, body \x7b\n  -webkit-print-color-adjust: exact;\n" ++
    "  print-color-adjust: exact;\n\x7d\n"

/-- A text that does not end a line is given a line end. -/
def closeLine (s : String) : String := if s.toList.getLast? = some '\n' then s else s ++ "\n"

/-- Neither the title nor the stylesheet can end the element it stands in. -/
def head (stylesheet : String) (options : DocumentOptions) : String :=
  "<!DOCTYPE html>\n<html lang=\"en\">\n<head>\n<meta charset=\"utf-8\">\n" ++
    "<meta name=\"viewport\" content=\"width=device-width, initial-scale=1\">\n" ++
    "<title>" ++ Text.escapeHtml options.title ++ "</title>\n" ++
    "<style>\n" ++ closeLine (Text.escapeStyle stylesheet) ++ pageRules options.medium ++
    "</style>\n</head>\n"

def assemble (body stylesheet : String) (options : DocumentOptions) : String :=
  head stylesheet options ++ "<body>\n" ++ closeLine body ++ "</body>\n</html>\n"

end Document

end Vitae

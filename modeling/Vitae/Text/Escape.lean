/-! Characters that markup would read as its own are written as entities, one substitution per
character and `&` first, so that no substitution touches what another has written. -/

namespace Vitae.Text

/-- Every occurrence of `c` becomes `text`. -/
def substitute (c : Char) (text : String) (cs : List Char) : List Char :=
  cs.flatMap fun x => if x = c then text.toList else [x]

/-- Text between tags, and attribute values. -/
def escapeHtml (s : String) : String :=
  String.ofList <|
    substitute '\'' "&#39;" <| substitute '"' "&quot;" <| substitute '>' "&gt;" <|
    substitute '<' "&lt;" <| substitute '&' "&amp;" s.toList

/-- Attribute values between double quotes, where `>` and `'` are ordinary. -/
def escapeAttribute (s : String) : String :=
  String.ofList <|
    substitute '"' "&quot;" <| substitute '<' "&lt;" <| substitute '&' "&amp;" s.toList

/-- A backslash after `<` where a slash follows: the same to a reader of styles, but no end of the
element that holds them. -/
def separateSlash : List Char → List Char
  | '<' :: '/' :: cs => '<' :: '\\' :: '/' :: separateSlash cs
  | c :: cs => c :: separateSlash cs
  | [] => []

def escapeStyle (s : String) : String := String.ofList (separateSlash s.toList)

end Vitae.Text

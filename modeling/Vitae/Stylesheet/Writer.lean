import Vitae.Stylesheet.Basic

/-! How a stylesheet is written: with every declaration on a line of its own and an empty line
between blocks, or all on one line. -/

namespace Vitae

namespace RuleText

def pretty (depth : Nat) (r : RuleText) : String :=
  Node.indent depth ++ r.selector ++ " \x7b\n" ++
    String.join (r.declarations.map fun (property, value) =>
      Node.indent (depth + 1) ++ property ++ ": " ++ value ++ ";\n") ++
    Node.indent depth ++ "\x7d\n"

def compact (r : RuleText) : String :=
  r.selector ++ "\x7b" ++
    String.join (r.declarations.map fun (property, value) => property ++ ":" ++ value ++ ";") ++
    "\x7d"

end RuleText

namespace Block

def pretty : Block RuleText → String
  | rule r => r.pretty 0
  | media query rules =>
    "@media " ++ query ++ " \x7b\n" ++ String.join (rules.map (·.pretty 1)) ++ "\x7d\n"

def compact : Block RuleText → String
  | rule r => r.compact
  | media query rules =>
    "@media " ++ query ++ "\x7b" ++ String.join (rules.map (·.compact)) ++ "\x7d"

end Block

namespace Stylesheet

def text (classPrefix : String) (s : Stylesheet) : List (Block RuleText) :=
  s.map (·.map (·.text classPrefix))

def render (s : Stylesheet) (classPrefix : String) (pretty : Bool) : String :=
  if pretty then "\n".intercalate ((s.text classPrefix).map Block.pretty)
  else String.join ((s.text classPrefix).map Block.compact)

end Stylesheet

end Vitae

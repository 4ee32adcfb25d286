import Vitae.Markup.Node

/-! Stylesheets before they are written. The words of a palette are reached through variables only,
which the first rule of a stylesheet declares. -/

namespace Vitae

inductive Variable where
  | primary
  | secondary
  | accent
  | background
  | text
  | headingFont
  | bodyFont
  deriving DecidableEq, Repr

namespace Variable

def all : List Variable :=
  [primary, secondary, accent, background, text, headingFont, bodyFont]

def baseName : Variable → String
  | primary => "primary"
  | secondary => "secondary"
  | accent => "accent"
  | background => "background"
  | text => "text"
  | headingFont => "heading-font"
  | bodyFont => "body-font"

def name (classPrefix : String) (v : Variable) : String := "--" ++ classPrefix ++ v.baseName

def reference (classPrefix : String) (v : Variable) : String := "var(" ++ v.name classPrefix ++ ")"

end Variable

inductive Property where
  | standard (name : String)
  /-- The property that gives a variable its value. -/
  | variable (v : Variable)
  deriving DecidableEq, Repr

def Property.name (classPrefix : String) : Property → String
  | standard name => name
  | «variable» v => v.name classPrefix

inductive Value where
  | verbatim (s : String)
  | pixels (n : Nat)
  | reference (v : Variable)
  /-- A solid line of that many pixels. -/
  | line (pixels : Nat) (color : Variable)
  deriving DecidableEq, Repr

def Value.text (classPrefix : String) : Value → String
  | verbatim s => s
  | pixels n => toString n ++ "px"
  | reference v => v.reference classPrefix
  | line n color => toString n ++ "px solid " ++ color.reference classPrefix

instance : Coe String Property := ⟨.standard⟩

instance : Coe String Value := ⟨.verbatim⟩

instance : Coe Variable Value := ⟨.reference⟩

structure Declaration where
  property : Property
  value : Value
  deriving DecidableEq, Repr

/-- What a rule inside an element is about. -/
inductive Target where
  | any
  | anyBefore
  | anyAfter
  | tag (t : Tag)
  deriving DecidableEq, Repr

def Target.text : Target → String
  | any => "*"
  | anyBefore => "*::before"
  | anyAfter => "*::after"
  | tag t => t.name

inductive Selector where
  | root
  | class (c : Class)
  /-- What stands inside an element of the class. -/
  | inside (c : Class) (target : Target)
  deriving DecidableEq, Repr

def Selector.text (classPrefix : String) : Selector → String
  | root => ":root"
  | .class c => "." ++ c.token classPrefix
  | inside c target => "." ++ c.token classPrefix ++ " " ++ target.text

structure Rule where
  selectors : List Selector
  declarations : List Declaration
  deriving DecidableEq, Repr

/-- The parts of a rule as they are written. -/
structure RuleText where
  selector : String
  declarations : List (String × String)
  deriving DecidableEq, Repr

def Rule.text (classPrefix : String) (r : Rule) : RuleText :=
  ⟨", ".intercalate (r.selectors.map (·.text classPrefix)),
    r.declarations.map fun d => (d.property.name classPrefix, d.value.text classPrefix)⟩

inductive Block (ρ : Type) where
  | rule (r : ρ)
  | media (query : String) (rules : List ρ)
  deriving DecidableEq, Repr

namespace Block

def map {ρ σ : Type} (f : ρ → σ) : Block ρ → Block σ
  | rule r => rule (f r)
  | media query rules => media query (rules.map f)

/-- Also those that hold for one medium only. -/
def rules {ρ : Type} : Block ρ → List ρ
  | rule r => [r]
  | media _ rules => rules

end Block

abbrev Stylesheet := List (Block Rule)

end Vitae

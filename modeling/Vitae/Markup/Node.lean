import Vitae.Markup.Class
import Vitae.Text.Escape

/-! Markup as a tree of elements and texts, and how it is written. Indentation is added between
tags only where an element holds other elements; text by itself stays as it is. -/

namespace Vitae

inductive Tag where
  | div
  | header
  | main
  | section
  | article
  | h1
  | h2
  | h3
  | p
  | span
  | ul
  | li
  | img
  deriving DecidableEq, Repr, Inhabited

namespace Tag

def all : List Tag :=
  [div, header, main, .section, article, h1, h2, h3, p, span, ul, li, img]

def name : Tag → String
  | div => "div"
  | header => "header"
  | main => "main"
  | .section => "section"
  | article => "article"
  | h1 => "h1"
  | h2 => "h2"
  | h3 => "h3"
  | p => "p"
  | span => "span"
  | ul => "ul"
  | li => "li"
  | img => "img"

/-- An element without content and without a closing tag. -/
def isVoid (tag : Tag) : Bool := tag = .img

end Tag

inductive Node where
  | text (s : String)
  | element (tag : Tag) (classes : List Class) (attributes : List (String × String))
      (children : List Node)
  deriving Inhabited

namespace Node

def isText : Node → Bool
  | text _ => true
  | element .. => false

mutual

/-- The element itself and all elements in it, in the order of their opening tags. -/
def walk : Node → List Node
  | text _ => []
  | element tag classes attributes children =>
    element tag classes attributes children :: walkAll children

def walkAll : List Node → List Node
  | [] => []
  | n :: ns => n.walk ++ walkAll ns

end

def indent (depth : Nat) : String := String.ofList (List.replicate (2 * depth) ' ')

def writeAttribute (name value : String) : String :=
  " " ++ name ++ "=\"" ++ Text.escapeHtml value ++ "\""

def openingTag (classPrefix : String) (tag : Tag) (classes : List Class)
    (attributes : List (String × String)) : String :=
  "<" ++ tag.name ++
    (if classes.isEmpty then ""
      else " class=\"" ++ " ".intercalate (classes.map (·.token classPrefix)) ++ "\"") ++
    String.join (attributes.map fun (name, value) => writeAttribute name value) ++ ">"

def closingTag (tag : Tag) : String := "</" ++ tag.name ++ ">"

mutual

/-- On one line, with nothing between the tags. -/
def compact (classPrefix : String) : Node → String
  | text s => Text.escapeHtml s
  | element tag classes attributes children =>
    openingTag classPrefix tag classes attributes ++
      if tag.isVoid then "" else compactAll classPrefix children ++ closingTag tag

def compactAll (classPrefix : String) : List Node → String
  | [] => ""
  | n :: ns => n.compact classPrefix ++ compactAll classPrefix ns

end

mutual

/-- On lines of its own, indented for its depth. -/
def prettyAt (classPrefix : String) (depth : Nat) : Node → String
  | text s => indent depth ++ Text.escapeHtml s ++ "\n"
  | element tag classes attributes children =>
    indent depth ++ openingTag classPrefix tag classes attributes ++
      (if tag.isVoid then ""
        else (if children.all isText then compactAll classPrefix children
          else "\n" ++ prettyAll classPrefix (depth + 1) children ++ indent depth) ++
          closingTag tag) ++ "\n"

def prettyAll (classPrefix : String) (depth : Nat) : List Node → String
  | [] => ""
  | n :: ns => n.prettyAt classPrefix depth ++ prettyAll classPrefix depth ns

end

def render (n : Node) (classPrefix : String) (pretty : Bool) : String :=
  if pretty then n.prettyAt classPrefix 0 else n.compact classPrefix

end Node

end Vitae

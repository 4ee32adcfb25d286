import Vitae.Decimal.Text
import Vitae.RenderOptions
import Vitae.Text.Base64
import Vitae.Text.Escape

/-! Pictures made of rectangles and circles, written as SVG. -/

namespace Vitae

inductive Outline where
  | rect (x y width height : Float)
  | circle (x y radius : Float)

structure Mark where
  className : String
  outline : Outline
  /-- Further attributes, each with a space before it. -/
  style : String

structure Picture where
  width : Float
  height : Float
  marks : List Mark

namespace Picture

/-- At most two places, a half away from zero. -/
def coordinate (v : Float) : String := Decimal.write Decimal.plainStyle ((v * 100.0).round / 100.0)

/-- A color may be any text, and stays within its attribute. -/
def fill (color : String) : String := " fill=\"" ++ Text.escapeAttribute color ++ "\""

def translucent (color : String) (opacity : Float) : String :=
  fill color ++ " fill-opacity=\"" ++ coordinate opacity ++ "\""

def measure (name : String) (v : Float) : String := " " ++ name ++ "=\"" ++ coordinate v ++ "\""

def classAttribute (classPrefix name : String) : String :=
  " class=\"" ++ classPrefix ++ name ++ "\""

def markText (classPrefix : String) (m : Mark) : String :=
  match m.outline with
  | .rect x y width height =>
    "<rect" ++ classAttribute classPrefix m.className ++ measure "x" x ++ measure "y" y ++
      measure "width" width ++ measure "height" height ++ m.style ++ "/>"
  | .circle x y radius =>
    "<circle" ++ classAttribute classPrefix m.className ++ measure "cx" x ++ measure "cy" y ++
      measure "r" radius ++ m.style ++ "/>"

def openingTag (classPrefix : String) (p : Picture) : String :=
  "<svg xmlns=\"http://www.w3.org/2000/svg\"" ++ measure "width" p.width ++
    measure "height" p.height ++ " viewBox=\"0 0 " ++ coordinate p.width ++ " " ++
    coordinate p.height ++ "\"" ++ classAttribute classPrefix "preview" ++ ">"

def render (p : Picture) (classPrefix : String) (pretty : Bool) : String :=
  let indent := if pretty then "  " else ""
  let newLine := if pretty then "\n" else ""
  p.openingTag classPrefix ++ newLine ++
    String.join (p.marks.map fun m => indent ++ markText classPrefix m ++ newLine) ++ "</svg>"

end Picture

/-- A picture that stands in the page itself. -/
def svgDataUri (markup : String) : String :=
  "data:image/svg+xml;base64," ++ Text.Base64.encodeText markup

end Vitae

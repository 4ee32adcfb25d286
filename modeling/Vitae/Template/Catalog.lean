import Vitae.Picture
import Vitae.Template.Preset

/-! A catalog that needs no registry: the showcases, each with a picture drawn beforehand. -/

namespace Vitae

namespace Category

def drawing : Category → String
  | professional =>
    "<svg xmlns=\"http://www.w3.org/2000/svg\" width=\"150\" height=\"200\" viewBox=\"0 0 150" ++
    " 200\">" ++
    "<rect width=\"150\" height=\"200\" fill=\"#ffffff\"/>" ++
    "<rect width=\"150\" height=\"50\" fill=\"#1e3a8a\"/>" ++
    "<rect x=\"10\" y=\"15\" width=\"60\" height=\"4\" fill=\"#ffffff\"/>" ++
    "<rect x=\"10\" y=\"27.5\" width=\"37.5\" height=\"4\" fill=\"#ffffff\"" ++
    " fill-opacity=\"0.7\"/>" ++
    "<rect x=\"10\" y=\"60\" width=\"48\" height=\"130\" fill=\"#000757\"" ++
    " fill-opacity=\"0.35\"/>" ++
    "<rect x=\"68\" y=\"60\" width=\"72\" height=\"130\" fill=\"#84a0f0\"" ++
    " fill-opacity=\"0.35\"/>" ++
    "</svg>"
  | modern =>
    "<svg xmlns=\"http://www.w3.org/2000/svg\" width=\"150\" height=\"200\" viewBox=\"0 0 150" ++
    " 200\">" ++
    "<rect width=\"150\" height=\"200\" fill=\"#ffffff\"/>" ++
    "<rect width=\"150\" height=\"50\" fill=\"#3b82f6\"/>" ++
    "<circle cx=\"25\" cy=\"25\" r=\"15\" fill=\"#ffffff\" fill-opacity=\"0.9\"/>" ++
    "<rect x=\"50\" y=\"15\" width=\"60\" height=\"4\" fill=\"#ffffff\"/>" ++
    "<rect x=\"50\" y=\"27.5\" width=\"37.5\" height=\"4\" fill=\"#ffffff\"" ++
    " fill-opacity=\"0.7\"/>" ++
    "<rect x=\"10\" y=\"60\" width=\"48\" height=\"130\" fill=\"#88cfff\"" ++
    " fill-opacity=\"0.35\"/>" ++
    "<rect x=\"68\" y=\"60\" width=\"72\" height=\"130\" fill=\"#aef5ff\"" ++
    " fill-opacity=\"0.35\"/>" ++
    "</svg>"
  | creative =>
    "<svg xmlns=\"http://www.w3.org/2000/svg\" width=\"150\" height=\"200\" viewBox=\"0 0 150" ++
    " 200\">" ++
    "<rect width=\"150\" height=\"200\" fill=\"#fafafa\"/>" ++
    "<rect width=\"150\" height=\"50\" fill=\"#db2777\"/>" ++
    "<circle cx=\"75\" cy=\"16\" r=\"10\" fill=\"#ffffff\" fill-opacity=\"0.9\"/>" ++
    "<rect x=\"45\" y=\"30\" width=\"60\" height=\"4\" fill=\"#ffffff\"/>" ++
    "<rect x=\"56.25\" y=\"38\" width=\"37.5\" height=\"4\" fill=\"#ffffff\"" ++
    " fill-opacity=\"0.7\"/>" ++
    "<rect x=\"10\" y=\"60\" width=\"48\" height=\"130\" fill=\"#ff5aaa\"" ++
    " fill-opacity=\"0.35\"/>" ++
    "<rect x=\"68\" y=\"60\" width=\"72\" height=\"130\" fill=\"#b50151\"" ++
    " fill-opacity=\"0.35\"/>" ++
    "</svg>"
  | minimal =>
    "<svg xmlns=\"http://www.w3.org/2000/svg\" width=\"150\" height=\"200\" viewBox=\"0 0 150" ++
    " 200\">" ++
    "<rect width=\"150\" height=\"200\" fill=\"#ffffff\"/>" ++
    "<rect width=\"150\" height=\"50\" fill=\"#111827\"/>" ++
    "<rect x=\"10\" y=\"15\" width=\"60\" height=\"4\" fill=\"#ffffff\"/>" ++
    "<rect x=\"10\" y=\"27.5\" width=\"37.5\" height=\"4\" fill=\"#ffffff\"" ++
    " fill-opacity=\"0.7\"/>" ++
    "<rect x=\"10\" y=\"60\" width=\"130\" height=\"130\" fill=\"#777e8d\"" ++
    " fill-opacity=\"0.35\"/>" ++
    "</svg>"

end Category

def TemplateMeta.catalog : List TemplateMeta :=
  Category.all.map fun c => { c.showcase.toMeta with preview := some (svgDataUri c.drawing) }

end Vitae

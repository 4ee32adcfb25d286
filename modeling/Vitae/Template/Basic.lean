import Vitae.Layout.Basic
import Vitae.Text.Blank

/-! A template: a layout with the key it is found by and what a listing shows of it. -/

namespace Vitae

structure Template where
  key : String
  name : String
  description : String
  category : Category
  layout : Layout
  deriving DecidableEq, Repr, Inhabited

/-- What a listing shows of a template, with a picture where one is at hand. -/
structure TemplateMeta where
  key : String
  name : String
  description : String
  category : Category
  preview : Option String := none
  deriving DecidableEq, Repr, Inhabited

def Template.toMeta (t : Template) : TemplateMeta :=
  ⟨t.key, t.name, t.description, t.category, none⟩

namespace Category

/-- Only the letters of ASCII are folded, and white space around the name is dropped. -/
def ofName? (s : String) : Option Category :=
  let wanted := (Text.trimList s.toList).map Char.toLower
  all.find? fun c => c.name.toList = wanted

def unknownMessage (s : String) : String := s!"unknown category '{s}'"

end Category

end Vitae

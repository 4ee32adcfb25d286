/-! What a caller may choose about the artifacts of a template. -/

namespace Vitae

structure RenderOptions where
  /-- Stands before every class name. -/
  classPrefix : Option String := some "rt-"
  pretty : Bool := true
  previewWidth : Float := 150.0
  previewHeight : Float := 200.0
  deriving Inhabited

namespace RenderOptions

def prefixText (o : RenderOptions) : String := o.classPrefix.getD ""

def withoutPrefix (o : RenderOptions) : RenderOptions := { o with classPrefix := none }

end RenderOptions

end Vitae

import Vitae.Document
import Vitae.Fragment
import Vitae.Preview
import Vitae.Stylesheet.Rules
import Vitae.Stylesheet.Writer

/-! The texts made from a template: the fragment for a résumé, the stylesheet that goes with it and
the picture for a listing. -/

namespace Vitae

namespace Template

def html (t : Template) (options : RenderOptions) (r : Resume) : String :=
  (t.layout.fragment r).render options.prefixText options.pretty

def css (t : Template) (options : RenderOptions) : String :=
  t.layout.stylesheet.render options.prefixText options.pretty

def preview (t : Template) (options : RenderOptions) : String :=
  (t.layout.preview options.previewWidth options.previewHeight).render options.prefixText
    options.pretty

def previewUri (t : Template) (options : RenderOptions) : String :=
  svgDataUri (t.preview options)

end Template

end Vitae

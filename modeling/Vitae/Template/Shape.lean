import Vitae.Color
import Vitae.Layout.Shape
import Vitae.Template.Custom

/-! The shapes of templates, of their listing data, of specifications for custom ones, and of a
color. -/

namespace Vitae

def HexColor.shape : Shape HexColor :=
  .spelled (fun s => (HexColor.parse s).mapError ColorError.message) HexColor.toHex

def Template.shape : Shape Template :=
  .record "TemplateConfig" false
    (.cons (.required "key") .text <|
      .cons (.required "name") .text <|
      .cons (.required "description") .text <|
      .cons (.required "category") Category.shape <|
      .cons (.required "layout") Layout.shape .nil)
    (fun (key, name, description, category, layout, ()) =>
      { key, name, description, category, layout })
    (fun t => (t.key, t.name, t.description, t.category, t.layout, ()))

/-- A template without a picture is written without the field for it. -/
def TemplateMeta.shape : Shape TemplateMeta :=
  .record "TemplateMeta" false
    (.cons (.required "key") .text <|
      .cons (.required "name") .text <|
      .cons (.required "description") .text <|
      .cons (.required "category") Category.shape <|
      .cons { Field.defaulting "preview" none with isWritten := Option.isSome }
        (.optional .text) .nil)
    (fun (key, name, description, category, preview, ()) =>
      { key, name, description, category, preview })
    (fun t => (t.key, t.name, t.description, t.category, t.preview, ()))

def CustomSpec.shape : Shape CustomSpec :=
  .record "CustomTemplateSpec" true
    (.cons (.required "key") .text <|
      .cons (.required "name") .text <|
      .cons (.defaulting "description" "") .text <|
      .cons (.required "category") Category.shape <|
      .cons (.defaulting "layout" {}) LayoutOverrides.shape .nil)
    (fun (key, name, description, category, layout, ()) =>
      { key, name, description, category, layout })
    (fun s => (s.key, s.name, s.description, s.category, s.layout, ()))

end Vitae

import Vitae.Json.Basic
import Vitae.Registry.Basic
import Vitae.Text.Quoted

/-! What a registry holds, in the order of the keys. -/

namespace Vitae

structure RegistryStats where
  total : Nat
  byCategory : Category → Nat
  cachedCss : Nat
  cachedPreviews : Nat

def RegistryStats.json (s : RegistryStats) : Json :=
  .obj [("total", .int s.total),
    ("by_category", .obj (Category.all.map fun c => (c.name, .int (s.byCategory c)))),
    ("cached_css", .int s.cachedCss), ("cached_previews", .int s.cachedPreviews)]

namespace Registry

def sorted (ms : List TemplateMeta) : List TemplateMeta := ms.mergeSort fun a b => a.key ≤ b.key

def listing (reg : Registry) : List TemplateMeta :=
  sorted (reg.entries.map (·.template.toMeta))

def listingOf (category : Category) (reg : Registry) : List TemplateMeta :=
  sorted ((reg.entries.filter (·.template.category = category)).map (·.template.toMeta))

def keys (reg : Registry) : List String :=
  (reg.entries.map Entry.key).mergeSort fun a b => a ≤ b

def stats (reg : Registry) : RegistryStats where
  total := reg.size
  byCategory c := reg.entries.countP (·.template.category = c)
  cachedCss := reg.entries.countP (·.css.isSome)
  cachedPreviews := reg.entries.countP (·.preview.isSome)

/-- One line that names the keys. -/
def describe (reg : Registry) : String :=
  "TemplateRegistry \x7b keys: [" ++ ", ".intercalate (reg.keys.map Text.quoted) ++ "], .. \x7d"

end Registry

end Vitae

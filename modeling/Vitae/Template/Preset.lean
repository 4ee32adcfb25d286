import Vitae.Template.Archetype

/-! The templates that come with the library: one showcase per archetype, then the presets. -/

namespace Vitae

inductive Preset where
  | corporate
  | executive
  | tech
  | startup
  | designer
  | artist
  | clean
  | simple
  deriving DecidableEq, Repr, Inhabited

namespace Preset

def all : List Preset :=
  [corporate, executive, tech, startup, designer, artist, clean, simple]

def key : Preset → String
  | corporate => "corporate"
  | executive => "executive"
  | tech => "tech"
  | startup => "startup"
  | designer => "designer"
  | artist => "artist"
  | clean => "clean"
  | simple => "simple"

def name : Preset → String
  | corporate => "Corporate"
  | executive => "Executive"
  | tech => "Tech"
  | startup => "Startup"
  | designer => "Designer"
  | artist => "Artist"
  | clean => "Clean"
  | simple => "Simple"

def description : Preset → String
  | corporate => "Conservative layout for corporate roles"
  | executive => "Understated layout for senior leadership"
  | tech => "Timeline layout for engineering roles"
  | startup => "Energetic layout for startup roles"
  | designer => "Expressive layout for design portfolios"
  | artist => "Bold layout for creative work"
  | clean => "Single column with generous whitespace"
  | simple => "Plain single-column layout"

def category : Preset → Category
  | corporate | executive => .professional
  | tech | startup => .modern
  | designer | artist => .creative
  | clean | simple => .minimal

def primary : Preset → HexColor
  | corporate => ⟨0x1e, 0x40, 0xaf⟩
  | executive => ⟨0x11, 0x18, 0x27⟩
  | tech => ⟨0x10, 0xb9, 0x81⟩
  | startup => ⟨0x8b, 0x5c, 0xf6⟩
  | designer => ⟨0xec, 0x48, 0x99⟩
  | artist => ⟨0xf5, 0x9e, 0x0b⟩
  | clean => ⟨0x37, 0x41, 0x51⟩
  | simple => ⟨0x6b, 0x72, 0x80⟩

def template (p : Preset) : Template :=
  .archetype p.category p.key p.name p.description p.primary

end Preset

namespace Category

def showcaseName : Category → String
  | professional => "Professional"
  | modern => "Modern"
  | creative => "Creative"
  | minimal => "Minimal"

def showcaseDescription : Category → String
  | professional => "Traditional two-column layout with serif headings"
  | modern => "Split header, skill chips and an experience timeline"
  | creative => "Centered header with skill bars and card sections"
  | minimal => "Single column with plain lists"

def showcasePrimary : Category → HexColor
  | professional => ⟨0x1e, 0x3a, 0x8a⟩
  | modern => ⟨0x3b, 0x82, 0xf6⟩
  | creative => ⟨0xdb, 0x27, 0x77⟩
  | minimal => ⟨0x11, 0x18, 0x27⟩

def showcase (c : Category) : Template :=
  .archetype c c.name c.showcaseName c.showcaseDescription c.showcasePrimary

end Category

def Template.builtins : List Template :=
  Category.all.map Category.showcase ++ Preset.all.map Preset.template

end Vitae

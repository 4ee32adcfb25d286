import Vitae.Command.Arguments
import Vitae.Json.Writer
import Vitae.Load
import Vitae.Registry.Listing
import Vitae.Template.Catalog

/-! What a command prints. It prints either all of its result or, on the other channel, why there is
none. -/

namespace Vitae

inductive Failure where
  | template (path : String) (e : LoadError)
  | resume (path : String) (e : LoadError)
  | notFound (e : NotFound)

namespace Failure

def line (s : String) : String := "Error: " ++ s ++ "\n"

def message : Failure → String
  | template path (.file e) => line ("reading template '" ++ path ++ "': " ++ e.message)
  | template path e => e.report path
  | resume path e => line ("loading resume '" ++ path ++ "': " ++ e.message)
  | notFound e => line e.message

end Failure

/-- The text of a file, by its path. -/
abbrev Files := String → Except ReadError String

/-- The bytes of a file, by its path. -/
abbrev Disk := String → Except ReadError ByteArray

def Disk.files (disk : Disk) : Files := fun path => disk path >>= textOfBytes

namespace Table

def pad (width : Nat) (s : String) : String :=
  s ++ String.ofList (List.replicate (width - s.length) ' ')

def row (width : Nat) (m : TemplateMeta) : String :=
  pad width m.key ++ "  " ++ pad 12 m.category.name ++ "  " ++ m.name ++ "\n"

/-- Wide enough for every key, if a character takes as many places as it has bytes. -/
def keyWidth (ms : List TemplateMeta) : Nat :=
  ms.foldl (fun width m => max width m.key.utf8ByteSize) 0

def render (ms : List TemplateMeta) : String := String.join (ms.map (row (keyWidth ms)))

end Table

namespace Invocation

def options (inv : Invocation) : RenderOptions :=
  if inv.noPrefix then RenderOptions.withoutPrefix {} else {}

def generator (inv : Invocation) : Generator := .standard inv.options

def loadTemplate (files : Files) (path : String) : Except Failure Template :=
  match CustomSpec.load (files path) with
  | .ok spec => .ok spec.template
  | .error e => .error (.template path e)

/-- The built-in templates, and then those of the files. -/
def registry (inv : Invocation) (files : Files) : Except Failure Registry :=
  (inv.templates.mapM (loadTemplate files)).map fun ts =>
    Registry.ofTemplates (Template.builtins ++ ts)

def loadResume (files : Files) (path : String) : Except Failure Resume :=
  (Resume.load path (files path)).mapError (.resume path)

def found {α : Type} (r : Except NotFound α) : Except Failure α := r.mapError .notFound

def ofCategory (category : Option Category) (ms : List TemplateMeta) : List TemplateMeta :=
  match category with
  | some c => ms.filter (·.category = c)
  | none => ms

def list (reg : Registry) (category : Option Category) (catalog json : Bool) : String :=
  let ms := ofCategory category (if catalog then TemplateMeta.catalog else reg.listing)
  if json then (Json.arr (ms.map TemplateMeta.shape.encode)).pretty ++ "\n" else Table.render ms

/-- What the command comes to when all templates are registered. -/
def answer (inv : Invocation) (files : Files) (reg : Registry) : Except Failure String :=
  let g := inv.generator
  match inv.command with
  | .list category catalog json => return list reg category catalog json
  | .css key => return (← found (reg.fetch g id .css key).1).text
  | .preview key true =>
    match reg.template? key with
    | some t => return t.preview inv.options ++ "\n"
    | none => .error (.notFound ⟨key⟩)
  | .preview key false => return (← found (reg.fetch g id .preview key).1).text ++ "\n"
  | .html key path => do
    let r ← loadResume files path
    found (reg.html g id key r).1
  | .document key path print title => do
    let r ← loadResume files path
    found (reg.document g id key r
      { title := title.getD r.primaryName, medium := if print then .print else .screen }).1
  | .stats => return reg.stats.json.pretty ++ "\n"

def output (inv : Invocation) (files : Files) : Except Failure String := do
  inv.answer files (← inv.registry files)

end Invocation

structure Outcome where
  exitCode : Nat
  stdout : String := ""
  stderr : String := ""
  deriving DecidableEq, Repr

def Invocation.run (inv : Invocation) (files : Files) : Outcome :=
  match inv.output files with
  | .ok text => { exitCode := 0, stdout := text }
  | .error e => { exitCode := 1, stderr := e.message }

def Outcome.ofUsage (e : UsageError) : Outcome :=
  { exitCode := 2, stderr := Failure.line e.message }

end Vitae

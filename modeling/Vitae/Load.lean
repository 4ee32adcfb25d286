import Vitae.Color
import Vitae.Report.Drawn
import Vitae.Resume.Shape
import Vitae.Shape.JsonText
import Vitae.Template.Shape

/-! Templates, specifications and résumés from text and from files, and what can go wrong, with the
reports of it. -/

namespace Vitae

/-- Why a file has no text. -/
inductive ReadError where
  | notFound
  | notText
  | other (reason : String)
  deriving DecidableEq, Repr

def ReadError.message : ReadError → String
  | notFound => "No such file or directory (os error 2)"
  | notText => "stream did not contain valid UTF-8"
  | other reason => reason

/-- Text is what is valid UTF-8. -/
def textOfBytes (bytes : ByteArray) : Except ReadError String :=
  if h : bytes.IsValidUTF8 then .ok (String.ofByteArray bytes h) else .error .notText

/-- Where no place in a text is known. -/
def Report.plain (filename message : String) : String := filename ++ ": " ++ message

def ColorError.report (filename : String) (e : ColorError) : String :=
  Report.plain filename e.message

inductive LoadError where
  | file (e : ReadError)
  | json (e : Json.TextError)
  /-- With the text in which the fault is. -/
  | toml (source : String) (e : TomlError)

namespace LoadError

def tomlReason (fault : Toml.Fault) : String := fault.what.message Decimal.pointedStyle

def message : LoadError → String
  | file e => "failed to read file: " ++ e.message
  | json e => "failed to parse JSON: " ++ e.message?.getD "not a JSON text"
  | toml source (.misfit fault) =>
    "failed to parse TOML: " ++ Report.caret source fault.span (tomlReason fault)
  | toml _ .malformed => "failed to parse TOML: not a TOML text"

/-- Drawn into the text of the file where the place of the fault is known. -/
def report (filename : String) : LoadError → String
  | toml source (.misfit fault) => Report.drawn source filename fault.span (tomlReason fault)
  | e => Report.plain filename e.message

end LoadError

def Shape.loadToml {α : Type} (shape : Shape α) (text : String) : Except LoadError α :=
  (shape.ofTomlText text).mapError (.toml text)

def Shape.loadJson {α : Type} (shape : Shape α) (text : String) : Except LoadError α :=
  (shape.ofJsonText text).mapError .json

/-- What stands behind the last point of a name, if anything stands before it. -/
def ending? (name : List Char) : Option (List Char) :=
  if name = ['.', '.'] then none
  else match name.reverse.dropWhile (· ≠ '.') with
    | [] | ['.'] => none
    | _ => some (name.reverse.takeWhile (· ≠ '.')).reverse

/-- Of the last part of a path. -/
def extension? (path : String) : Option (List Char) :=
  let parts := (path.toList.splitOn '/').filter fun part => part ≠ [] && part ≠ ['.']
  parts.getLast?.bind ending?

def isTomlPath (path : String) : Bool :=
  (extension? path).any fun ending => ending.map Char.toLower = "toml".toList

/-- The text of a résumé is TOML if its path says so, and JSON otherwise. -/
def Resume.load (path : String) (content : Except ReadError String) : Except LoadError Resume :=
  match content with
  | .error e => .error (.file e)
  | .ok text =>
    if isTomlPath path then Resume.shape.loadToml text else Resume.shape.loadJson text

def Template.load (content : Except ReadError String) : Except LoadError Template :=
  match content with
  | .error e => .error (.file e)
  | .ok text => Template.shape.loadToml text

def CustomSpec.load (content : Except ReadError String) : Except LoadError CustomSpec :=
  match content with
  | .error e => .error (.file e)
  | .ok text => CustomSpec.shape.loadToml text

end Vitae

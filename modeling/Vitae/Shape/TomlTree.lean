import Vitae.Shape.Value
import Vitae.Toml.Document

/-! TOML documents of a shape. A tree that fits is a JSON value of the same shape; one that does not
is shown where it was written: a value at its own text, a field that is not known at its name, and
a field that is missing at the table that lacks it. -/

namespace Vitae

namespace Toml

structure Fault where
  what : Misfit
  span : Span

/-- A date or a time is a table of one field, which no record knows. -/
def datetimeField : String := "$__toml_private_datetime"

def Scalar.found : Scalar → Found
  | string s => .string s
  | integer n => .integer n
  | float x => .float x
  | boolean b => .bool b
  | datetime => .map

def Scalar.kind : Scalar → String
  | string _ => "string"
  | integer _ => "integer"
  | float _ => "float"
  | boolean _ => "boolean"
  | datetime => "datetime"

def found : Toml → Found
  | .scalar _ s => s.found
  | .array _ _ | .tables _ _ => .sequence
  | .table _ _ _ => .map

def wrongType {α : Type} (t : Toml) (expected : String) : Except Fault α :=
  .error ⟨.wrongType t.found expected, t.span⟩

def items? : Toml → Option (List Toml)
  | .array _ items | .tables _ items => some items
  | _ => none

def entries? : Toml → Option (List (Key × Toml))
  | .table _ _ entries => some entries
  | .scalar span .datetime => some [(⟨datetimeField, span⟩, .scalar span .datetime)]
  | _ => none

/-- The content of a choice that has none. -/
def emptyContent : Toml → Except Misfit Unit
  | .tables _ items => if items.isEmpty then .ok () else .error (.notEmpty "array")
  | .array _ items => if items.isEmpty then .ok () else .error (.notEmpty "table")
  | .table _ _ entries => if entries.isEmpty then .ok () else .error (.notEmpty "table")
  | .scalar _ s => .error (.notTable s.kind)

/-- A choice by its name, alone or as the one entry of a table. Content that is not empty is shown at
its own text, or else at the whole choice. -/
def choiceOf (check : String → Except Misfit Unit) (t : Toml) : Except Fault Json := do
  let at_ (span : Span) (r : Except Misfit Unit) : Except Fault Unit := r.mapError (⟨·, span⟩)
  match t with
  | .scalar span (.string s) =>
    at_ span (check s)
    return .str s
  | .table span _ [(k, content)] =>
    at_ k.span (check k.name)
    at_ (content.ownSpan?.getD span) (emptyContent content)
    return .str k.name
  | .table span _ entries => .error ⟨.notOneElement !entries.isEmpty, span⟩
  | t => .error ⟨.notStringOrTable, t.span⟩

end Toml

/-- The first field that none of these names gives. -/
def Fields.unnamed? : {β : Type} → Fields β → List String → Option String
  | _, .nil, _ => none
  | _, .cons field _ rest, names =>
    if field.absent.isNone && !names.contains field.name then some field.name
    else rest.unnamed? names

open Toml

mutual

def Shape.transcribe : {α : Type} → Shape α → Toml → Except Fault Json
  | _, .text, t =>
    match t with
    | .scalar _ (.string s) => .ok (.str s)
    | t => wrongType t "a string"
  | _, .flag, t =>
    match t with
    | .scalar _ (.boolean b) => .ok (.bool b)
    | t => wrongType t "a boolean"
  | _, .byte, t =>
    match t with
    | .scalar span (.integer n) =>
      match Shape.byte.decode (.int n) with
      | .ok _ => .ok (.int n)
      | .error what => .error ⟨what, span⟩
    | t => wrongType t "u8"
  | _, .spelled read _, t =>
    match t with
    | .scalar span (.string s) =>
      match read s with
      | .ok _ => .ok (.str s)
      | .error reason => .error ⟨.refused reason, span⟩
    | t => wrongType t "a string"
  | _, .choice all name, t => choiceOf (fun s => (chosen all name s).map fun _ => ()) t
  | _, .optional shape, t => shape.transcribe t
  | _, .list shape, t =>
    match t.items? with
    | some items => (items.mapM shape.transcribe).map .arr
    | none => wrongType t "a sequence"
  | _, .record name closed fields _ _, t =>
    match t.entries?, t.items? with
    | some entries, _ => do
      let members ← entries.filterMapM fun (k, v) => fields.transcribeEntry closed fields.names k v
      match fields.unnamed? (members.map Prod.fst) with
      | some name => .error ⟨.missingField name, t.span⟩
      | none => return .obj members
    | none, some items =>
      (fields.transcribeList t.span (fields.expectedList name) 0 items).map .arr
    | none, none => wrongType t s!"struct {name}"

/-- An entry as the member it is read as, unless it is passed over. -/
def Fields.transcribeEntry : {β : Type} → Fields β → (closed : Bool) → (known : List String) →
    Key → Toml → Except Fault (Option (String × Json))
  | _, .nil, closed, known, k, _ =>
    if closed then .error ⟨.unknownField k.name known, k.span⟩ else .ok none
  | _, .cons field shape rest, closed, known, k, t =>
    if field.name = k.name then (shape.transcribe t).map fun v => some (k.name, v)
    else rest.transcribeEntry closed known k t

/-- The fields of a record in an array, from the one at place `index` on; what the array holds
beyond them is passed over. -/
def Fields.transcribeList : {β : Type} → Fields β → Span → (expected : String) → (index : Nat) →
    List Toml → Except Fault (List Json)
  | _, .nil, _, _, _, _ => .ok []
  | _, .cons _ shape rest, span, expected, index, t :: ts => do
    let v ← shape.transcribe t
    return v :: (← rest.transcribeList span expected (index + 1) ts)
  | _, .cons field _ rest, span, expected, index, [] =>
    if field.beyondEnd.isNone then .error ⟨.wrongLength index expected, span⟩
    else rest.transcribeList span expected (index + 1) []

end

inductive TomlError where
  | malformed
  | misfit (fault : Fault)

/-- The value of the shape that a TOML text stands for. -/
def Shape.ofTomlText {α : Type} (shape : Shape α) (text : String) : Except TomlError α := do
  let t ← (Toml.parse? text).elim (.error .malformed) .ok
  let v ← (shape.transcribe t).mapError .misfit
  (shape.decode v).mapError fun what => .misfit ⟨what, t.span⟩

end Vitae

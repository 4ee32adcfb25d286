import Vitae.Json.Basic
import Vitae.Shape.Basic
import Vitae.Shape.Misfit

/-! JSON values of a shape. Members of an object are looked at in the order in which they stand,
and the first that does not fit is the one to be reported. -/

namespace Vitae

def Json.found : Json → Found
  | .null => .null
  | .bool b => .bool b
  | .int n => .integer n
  | .float x => .float x
  | .str s => .string s
  | .arr _ => .sequence
  | .obj _ => .map

/-- The choice of that name. -/
def chosen {α : Type} (all : List α) (name : α → String) (s : String) : Except Misfit α :=
  match all.find? fun a => name a = s with
  | some a => .ok a
  | none => .error (.unknownVariant s (all.map name))

/-- The content of a choice that has none. -/
def unitContent : Json → Except Misfit Unit
  | .null => .ok ()
  | v => .error (.wrongType v.found "unit")

mutual

def Shape.encode : {α : Type} → Shape α → α → Json
  | _, .text, s => .str s
  | _, .flag, b => .bool b
  | _, .byte, n => .int n.toNat
  | _, .spelled _ write, a => .str (write a)
  | _, .choice _ name, a => .str (name a)
  | _, .optional _, none => .null
  | _, .optional shape, some a => shape.encode a
  | _, .list shape, as => .arr (as.map shape.encode)
  | _, .record _ _ fields _ parts, a => .obj (fields.encode (parts a))

def Fields.encode : {β : Type} → Fields β → β → List (String × Json)
  | _, .nil, () => []
  | _, .cons field shape rest, (a, b) =>
    if field.isWritten a then (field.name, shape.encode a) :: rest.encode b else rest.encode b

end

mutual

def Shape.decode : {α : Type} → Shape α → Json → Except Misfit α
  | _, .text, v =>
    match v with
    | .str s => .ok s
    | v => .error (.wrongType v.found "a string")
  | _, .flag, v =>
    match v with
    | .bool b => .ok b
    | v => .error (.wrongType v.found "a boolean")
  | _, .byte, v =>
    match v with
    | .int n =>
      if 0 ≤ n ∧ n < 256 then .ok (.ofNat n.toNat) else .error (.wrongValue (.integer n) "u8")
    | v => .error (.wrongType v.found "u8")
  | _, .spelled read _, v =>
    match v with
    | .str s => (read s).mapError .refused
    | v => .error (.wrongType v.found "a string")
  | _, .choice all name, v =>
    match v with
    | .str s => chosen all name s
    | .obj [(s, content)] => do
      let a ← chosen all name s
      unitContent content
      return a
    | .obj _ => .error (.wrongValue .map "map with a single key")
    | v => .error (.wrongType v.found "string or map")
  | _, .optional shape, v =>
    match v with
    | .null => .ok none
    | v => (shape.decode v).map some
  | _, .list shape, v =>
    match v with
    | .arr vs => vs.mapM shape.decode
    | v => .error (.wrongType v.found "a sequence")
  | _, .record name closed fields make _, v =>
    match v with
    | .obj members =>
      match members.findSome? fun (n, w) => fields.misfit? closed fields.names n w with
      | some misfit => .error misfit
      | none => (fields.collect members).map make
    | .arr vs =>
      match fields.decodeList (fields.expectedList name) 0 vs with
      | .ok b =>
        if fields.count < vs.length then
          .error (.wrongLength vs.length "fewer elements in array")
        else .ok (make b)
      | .error misfit => .error misfit
    | v => .error (.wrongType v.found s!"struct {name}")

/-- What is wrong with a member, by itself; `known` are the names of all fields. -/
def Fields.misfit? : {β : Type} → Fields β → (closed : Bool) → (known : List String) →
    (name : String) → Json → Option Misfit
  | _, .nil, closed, known, name, _ =>
    if closed then some (.unknownField name known) else none
  | _, .cons field shape rest, closed, known, name, v =>
    if field.name = name then
      match shape.decode v with
      | .ok _ => none
      | .error misfit => some misfit
    else rest.misfit? closed known name v

/-- The fields of an object, every one read from the member of its name. -/
def Fields.collect : {β : Type} → Fields β → List (String × Json) → Except Misfit β
  | _, .nil, _ => .ok ()
  | _, .cons field shape rest, members => do
    let a ← match members.lookup field.name with
      | some v => shape.decode v
      | none => field.absent.elim (.error (.missingField field.name)) .ok
    let b ← rest.collect members
    return (a, b)

/-- The fields of a record in a list, from the one at place `index` on. -/
def Fields.decodeList : {β : Type} → Fields β → (expected : String) → (index : Nat) →
    List Json → Except Misfit β
  | _, .nil, _, _, _ => .ok ()
  | _, .cons field shape rest, expected, index, vs => do
    let a ← match vs with
      | v :: _ => shape.decode v
      | [] => field.beyondEnd.elim (.error (.wrongLength index expected)) .ok
    let b ← rest.decodeList expected (index + 1) vs.tail
    return (a, b)

end

end Vitae

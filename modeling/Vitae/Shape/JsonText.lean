import Vitae.Json.Reader
import Vitae.Shape.Value

/-! JSON text of a shape. The text is checked against the shape while it is read, so that the first
problem in it, of either kind, is the one to be reported, and at its place; what has been read is
then a value of the shape. -/

namespace Vitae

namespace Json.Scan

/-- Reads a value that is not what is expected here; of a list or an object nothing is read. -/
def unwanted {α : Type} (expected : String) : Scan α := do
  match ← token with
  | some '[' => failHere (.wrongType .sequence expected)
  | some '{' => failHere (.wrongType .map expected)
  | _ =>
    let v ← scalar
    failHere (.wrongType v.found expected)

/-- The place is behind the closing bracket, if that comes next. -/
def failClosed {α : Type} (bracket : Char) (what : Misfit) : Scan α := do
  if (← token) = some bracket then advance
  failHere what

/-- All items of a list, from behind its opening bracket to its closing one. -/
def itemsOf (item : Scan Json) (first : Bool) : (fuel : Nat) → Scan (List Json)
  | 0 => throw .ended
  | fuel + 1 => do
    if ← hasItem first then
      let v ← item
      return v :: (← itemsOf item false fuel)
    close ']'
    return []

/-- All members of an object with the given names, from behind its opening bracket up to its
closing one. -/
def membersOf (closed : Bool) (names : List String) (member : String → Scan Json) (first : Bool) :
    (fuel : Nat) → List (String × Json) → Scan (List (String × Json))
  | 0, _ => throw .ended
  | fuel + 1, seen => do
    if ← hasMember first then
      let name ← string
      if names.contains name then
        if (seen.lookup name).isSome then failClosed '}' (.duplicateField name)
        colon
        let v ← member name
        membersOf closed names member false fuel (seen ++ [(name, v)])
      else if closed then failClosed '}' (.unknownField name names)
      else
        colon
        skip
        membersOf closed names member false fuel seen
    else return seen

/-- A choice by its name, alone or as the one member of an object without content. -/
def choiceOf (check : String → Except Misfit Unit) : Scan Json := do
  let checked : Scan String := do
    let s ← string
    match check s with
    | .ok () => return s
    | .error what => failHere what
  match ← token with
  | none => throw .ended
  | some '"' => return .str (← checked)
  | some '{' =>
    advance
    let s ← match ← token with
      | none => throw .ended
      | some '"' => checked
      | some _ => throw .malformed
    colon
    if (← token) = some 'n' then discard scalar else unwanted "unit"
    close '}'
    return .str s
  | some _ => throw .malformed

end Json.Scan

open Json Json.Scan

/-- The first field that an object with these members lacks. -/
def Fields.missing? : {β : Type} → Fields β → List (String × Json) → Option String
  | _, .nil, _ => none
  | _, .cons field _ rest, members =>
    if field.absent.isNone && (members.lookup field.name).isNone then some field.name
    else rest.missing? members

mutual

def Shape.scan : {α : Type} → Shape α → Scan Json
  | _, .text => do
    if (← token) = some '"' then return .str (← string)
    unwanted "a string"
  | _, .flag => do
    if (← token).any fun c => c = 't' || c = 'f' then scalar else unwanted "a boolean"
  | _, .byte => do
    if (← token).any fun c => c = '-' || Decimal.isDigit c then
      let v ← number
      match Shape.byte.decode v with
      | .ok _ => return v
      | .error what => failHere what
    else unwanted "u8"
  | _, .spelled read _ => do
    if (← token) = some '"' then
      let s ← string
      match read s with
      | .ok _ => return .str s
      | .error reason => throw (.misfit (.refused reason) none)
    else unwanted "a string"
  | _, .choice all name => choiceOf fun s => (chosen all name s).map fun _ => ()
  | _, .optional shape => do
    if (← token) = some 'n' then scalar else shape.scan
  | _, .list shape => do
    if (← token) = some '[' then
      advance
      return .arr (← itemsOf shape.scan true (← bound))
    else unwanted "a sequence"
  | _, .record name closed fields _ _ => do
    match ← token with
    | some '[' =>
      advance
      let vs ← fields.scanList (fields.expectedList name) 0 true
      close ']'
      return .arr vs
    | some '{' =>
      advance
      let members ← membersOf closed fields.names fields.scanMember true (← bound) []
      match fields.missing? members with
      | some name => failClosed '}' (.missingField name)
      | none =>
        close '}'
        return .obj members
    | _ => unwanted s!"struct {name}"

def Fields.scanMember : {β : Type} → Fields β → (name : String) → Scan Json
  | _, .nil, _ => throw .malformed
  | _, .cons field shape rest, name =>
    if field.name = name then shape.scan else rest.scanMember name

def Fields.scanList : {β : Type} → Fields β → (expected : String) → (index : Nat) →
    (first : Bool) → Scan (List Json)
  | _, .nil, _, _, _ => return []
  | _, .cons field shape rest, expected, index, first => do
    if ← hasItem first then
      let v ← shape.scan
      return v :: (← rest.scanList expected (index + 1) false)
    else if field.beyondEnd.isNone then failClosed ']' (.wrongLength index expected)
    else rest.scanList expected (index + 1) first

end

/-- The value of the shape that a JSON text stands for. -/
def Shape.ofJsonText {α : Type} (shape : Shape α) (text : String) : Except TextError α := do
  let v ← shape.scan.run text
  (shape.decode v).mapError (.misfit · none)

end Vitae

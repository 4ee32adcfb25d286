/-! The shape of a document: which text, flags, lists and records it is made of, and how a value of
the library is put together from them. One description serves for every notation in which the
document can be written. -/

namespace Vitae

/-- A field of a record: its name, its value in an object that leaves it out and in a list of
fields that ends before it, if it may be left out, and whether it is written at all. -/
structure Field (α : Type) where
  name : String
  absent : Option α := none
  beyondEnd : Option α := none
  isWritten : α → Bool := fun _ => true

namespace Field

variable {α : Type}

def required (name : String) : Field α := { name }

/-- May be left out of an object, though not of a list. -/
def nullable (name : String) : Field (Option α) := { name, absent := some none }

def defaulting (name : String) (value : α) : Field α :=
  { name, absent := some value, beyondEnd := some value }

end Field

mutual

inductive Shape : Type → Type 1 where
  | text : Shape String
  | flag : Shape Bool
  | byte : Shape UInt8
  /-- Text with a meaning of its own, or else a reason to refuse it. -/
  | spelled {α : Type} (read : String → Except String α) (write : α → String) : Shape α
  | choice {α : Type} (all : List α) (name : α → String) : Shape α
  | optional {α : Type} (shape : Shape α) : Shape (Option α)
  | list {α : Type} (shape : Shape α) : Shape (List α)
  /-- A closed record takes no field but its own. -/
  | record {α β : Type} (name : String) (closed : Bool) (fields : Fields β)
      (make : β → α) (parts : α → β) : Shape α

inductive Fields : Type → Type 1 where
  | nil : Fields Unit
  | cons {α β : Type} (field : Field α) (shape : Shape α) (rest : Fields β) : Fields (α × β)

end

namespace Fields

def names : {β : Type} → Fields β → List String
  | _, nil => []
  | _, cons field _ rest => field.name :: rest.names

def count {β : Type} (fields : Fields β) : Nat := fields.names.length

/-- What a list of the fields of the record `name` is expected to be. -/
def expectedList {β : Type} (fields : Fields β) (name : String) : String :=
  s!"struct {name} with {fields.count} elements"

end Fields

end Vitae

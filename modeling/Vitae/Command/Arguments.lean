import Vitae.Command.Basic

/-! From arguments to a command. Options and operands may be mixed, `--` ends the options, and a
value may follow its option or be attached to it. -/

namespace Vitae

/-- What a single argument looks like where only some options are allowed. -/
inductive Argument where
  | operand
  | endOfOptions
  | option (s : Switch) (attached : Option String)
  | unknown
  deriving DecidableEq, Repr

namespace Argument

def longForm (allowed : List Switch) (cs : List Char) : Argument :=
  let name := cs.takeWhile (· ≠ '=')
  match allowed.find? fun s => s.long.toList = name with
  | none => unknown
  | some s =>
    match cs.drop name.length with
    | [] => option s none
    | _ :: value => option s (some (String.ofList value))

def shortForm (allowed : List Switch) (c : Char) (cs : List Char) : Argument :=
  match allowed.find? fun s => s.short? = some c with
  | none => unknown
  | some s =>
    match cs with
    | [] => option s none
    | '=' :: value | value => option s (some (String.ofList value))

/-- A lone `-` is an operand. -/
def read (allowed : List Switch) (argument : String) : Argument :=
  match argument.toList with
  | ['-', '-'] => endOfOptions
  | '-' :: '-' :: cs => longForm allowed cs
  | '-' :: c :: cs => shortForm allowed c cs
  | _ => operand

/-- What can only be an option is no value of the option before it. -/
def isValue (argument : String) : Bool := read [] argument = operand

end Argument

/-- The arguments up to some point, sorted out. -/
structure Sorted where
  given : List (Switch × String) := []
  operands : List String := []
  deriving DecidableEq, Repr

namespace Sorted

def give (s : Switch) (value : String) (rest : Sorted) : Except UsageError Sorted :=
  if s.accepts value then .ok { rest with given := (s, value) :: rest.given }
  else .error (.badValue s value)

def operand (argument : String) (rest : Sorted) : Sorted :=
  { rest with operands := argument :: rest.operands }

/-- With `untilOperand`, everything from the first operand on is left as it is. -/
def scan (allowed : List Switch) (untilOperand : Bool) : List String → Except UsageError Sorted
  | [] => .ok {}
  | argument :: rest =>
    match Argument.read allowed argument with
    | .unknown => .error (.unknownOption argument)
    | .endOfOptions => if untilOperand then .error .noCommand else .ok { operands := rest }
    | .operand =>
      if untilOperand then .ok { operands := argument :: rest }
      else (scan allowed untilOperand rest).map (operand argument)
    | .option s attached =>
      match s.takesValue, attached with
      | false, some _ => .error (.unexpectedValue s)
      | false, none => (scan allowed untilOperand rest).bind (give s "")
      | true, some value => (scan allowed untilOperand rest).bind (give s value)
      | true, none =>
        match rest with
        | [] => .error (.missingValue s)
        | value :: rest =>
          if Argument.isValue value then (scan allowed untilOperand rest).bind (give s value)
          else .error (.missingValue s)

def values (s : Switch) (sorted : Sorted) : List String :=
  (sorted.given.filter (·.1 = s)).map (·.2)

def has (s : Switch) (sorted : Sorted) : Bool := !(sorted.values s).isEmpty

def value? (s : Switch) (sorted : Sorted) : Option String := (sorted.values s).head?

/-- Only files of templates may be given more than once. -/
def repeated? (sorted : Sorted) (allowed : List Switch) : Option Switch :=
  allowed.find? fun s => s ≠ .templates && 1 < (sorted.values s).length

def read (allowed : List Switch) (untilOperand : Bool) (arguments : List String) :
    Except UsageError Sorted := do
  let sorted ← scan allowed untilOperand arguments
  match sorted.repeated? allowed with
  | some s => .error (.repeated s)
  | none => .ok sorted

/-- As many operands as there are names for them. -/
def take : List String → List String → Except UsageError (List String)
  | [], [] => .ok []
  | [], argument :: _ => .error (.unexpected argument)
  | name :: _, [] => .error (.missing name)
  | _ :: names, argument :: rest => (take names rest).map (argument :: ·)

end Sorted

namespace Command

/-- The options of a command, besides those that every command has, and its operands. -/
def usage? : String → Option (List Switch × List String)
  | "list" => some ([.category, .fallback, .json], [])
  | "css" => some ([], ["KEY"])
  | "preview" => some ([.raw], ["KEY"])
  | "html" => some ([.resume], ["KEY"])
  | "document" => some ([.resume, .print, .title], ["KEY"])
  | "stats" => some ([], [])
  | _ => none

def resumeOf (sorted : Sorted) : Except UsageError String :=
  match sorted.value? .resume with
  | some path => .ok path
  | none => .error (.missing "--resume")

def ofSorted (name : String) (sorted : Sorted) (operands : List String) :
    Except UsageError Command :=
  match name, operands with
  | "list", _ =>
    .ok (list ((sorted.value? .category).bind Category.ofName?) (sorted.has .fallback)
      (sorted.has .json))
  | "css", [key] => .ok (css key)
  | "preview", [key] => .ok (preview key (sorted.has .raw))
  | "html", [key] => (resumeOf sorted).map (html key)
  | "document", [key] =>
    (resumeOf sorted).map fun path =>
      document key path (sorted.has .print) (sorted.value? .title)
  | "stats", _ => .ok stats
  | _, _ => .error (.unknownCommand name)

end Command

/-- An option that is given both before and after the command counts as given after it. -/
def Invocation.read (arguments : List String) : Except UsageError Invocation := do
  let before ← Sorted.read Switch.shared true arguments
  match before.operands with
  | [] => .error .noCommand
  | name :: rest =>
    let some (switches, operandNames) := Command.usage? name | .error (.unknownCommand name)
    let after ← Sorted.read (Switch.shared ++ switches) false rest
    let operands ← Sorted.take operandNames after.operands
    let command ← Command.ofSorted name after operands
    return {
      templates := (if after.has .templates then after else before).values .templates
      noPrefix := before.has .noPrefix || after.has .noPrefix
      command }

end Vitae

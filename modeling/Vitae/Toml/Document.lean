import Vitae.Toml.Numbers
import Vitae.Toml.Strings
import Vitae.Toml.Table

/-! Values, and documents made of them line by line. -/

namespace Vitae.Toml

namespace Scan

/-- A word that stands for a value. -/
def wordScalar : Scan Scalar := do
  if ← accept "true" then return .boolean true
  if ← accept "false" then return .boolean false
  if ← accept "inf" then return .float (1.0 / 0.0)
  if ← accept "nan" then return .float (0.0 / 0.0)
  failure

def scalar : Scan Scalar := do
  match ← peek with
  | some c =>
    if c = '"' || c = '\'' then return .string (← string)
    else if c = '+' || c = '-' || Decimal.isDigit c then numberOrDate
    else wordScalar
  | none => failure

def scalarNode : Scan Toml := do
  let start ← offset
  let s ← scalar
  return .scalar ⟨start, ← offset⟩ s

mutual

/-- A value with at most `depth` brackets around any part of it. -/
def value : (depth : Nat) → Scan Toml
  | 0 => scalarNode
  | depth + 1 => do
    let start ← offset
    match ← peek with
    | some '[' =>
      advance
      let vs ← items depth (← bound)
      return .array ⟨start, ← offset⟩ vs
    | some '{' =>
      advance
      let t ← pairs depth true (← bound) { span := ⟨start, start⟩, form := .inline }
      return .table ⟨start, ← offset⟩ .inline t.entries
    | _ => scalarNode

/-- The items of an array, up to its closing bracket, which is read. -/
def items (depth : Nat) : (fuel : Nat) → Scan (List Toml)
  | 0 => failure
  | fuel + 1 => do
    padding (← bound)
    if ← accept "]" then return []
    let v ← value depth
    padding (← bound)
    if ← accept "," then return v :: (← items depth fuel)
    expect "]"
    return [v]

/-- The pairs of an inline table, up to its closing brace, which is read. -/
def pairs (depth : Nat) (first : Bool) : (fuel : Nat) → Table → Scan Table
  | 0, _ => failure
  | fuel + 1, t => do
    blanks
    if first then
      if ← accept "\x7d" then return t
    let path ← key
    expect "="
    blanks
    let v ← value depth
    blanks
    let some k := path.getLast? | failure
    let t ← StateT.lift (t.define path.dropLast k v)
    if ← accept "," then pairs depth false fuel t
    else
      expect "\x7d"
      return t

end

end Scan

/-- A document that is read up to some line: the root, and the table whose lines are being read. -/
structure Draft where
  root : Table := { span := ⟨0, 0⟩, form := .header }
  /-- Path of the table being read, and whether it is one of an array; the root has none. -/
  path : List Key := []
  inArray : Bool := false
  current : Table := { span := ⟨0, 0⟩, form := .header }

namespace Draft

/-- Files the table being read under its path. -/
def finish (d : Draft) : Option Table :=
  match d.path.getLast? with
  | none => some d.current
  | some k => d.root.within .onTheWay d.path.dropLast fun parent =>
    match d.inArray, parent.get? k.name with
    | false, none => some (parent.append k d.current.toToml)
    | true, some (.tables _ items) =>
      let items := items ++ [d.current.toToml]
      let start := (items.head?.map (·.span.start)).getD d.current.span.start
      some (parent.replace k.name (.tables ⟨start, d.current.span.stop⟩ items))
    | _, _ => none

/-- A table that a longer header has made is taken up again, and stands last from then on; any
other is defined already. -/
def startTable (d : Draft) (path : List Key) (span : Span) : Option Draft := do
  let k ← path.getLast?
  let root ← (← d.finish).within .onTheWay path.dropLast some
  let parent ← root.at? path.dropLast
  match parent.get? k.name with
  | none => return { root, path, current := { span, form := .header } }
  | some (.table _ .onTheWay entries) =>
    let root ← root.within .onTheWay path.dropLast fun parent => some (parent.erase k.name)
    return { root, path, current := { span, form := .header, entries } }
  | some _ => none

/-- One more table for an array of tables, which may be a new one. -/
def startArrayTable (d : Draft) (path : List Key) (span : Span) : Option Draft := do
  let k ← path.getLast?
  let root ← (← d.finish).within .onTheWay path.dropLast fun parent =>
    match parent.get? k.name with
    | none => some (parent.append k (.tables span []))
    | some (.tables _ _) => some parent
    | some _ => none
  return { root, path, inArray := true, current := { span, form := .header } }

/-- A table reaches up to the end of its last value. -/
def addPair (d : Draft) (path : List Key) (v : Toml) : Option Draft := do
  let k ← path.getLast?
  let current ← d.current.define path.dropLast k v
  return { d with current := { current with span := ⟨current.span.start, v.span.stop⟩ } }

end Draft

namespace Scan

def header (opening closing : String) (start : Draft → List Key → Span → Option Draft)
    (d : Draft) : Scan Draft := do
  let first ← offset
  expect opening
  let path ← key
  expect closing
  let last ← offset
  let d ← StateT.lift (start d path ⟨first, last⟩)
  lineEnd
  return d

def pair (d : Draft) : Scan Draft := do
  let path ← key
  expect "="
  blanks
  let v ← value 79
  lineEnd
  StateT.lift (d.addPair path v)

def lines : (fuel : Nat) → Draft → Scan Draft
  | 0, _ => failure
  | fuel + 1, d => do
    blanks
    match ← peek with
    | none => return d
    | some '#' =>
      lineEnd
      lines fuel d
    | some '[' =>
      if ← startsWith "[[" then lines fuel (← header "[[" "]]" Draft.startArrayTable d)
      else lines fuel (← header "[" "]" Draft.startTable d)
    | some c =>
      if c = '\n' || c = '\r' then
        if ← newline then lines fuel d else failure
      else lines fuel (← pair d)

/-- A mark of the byte order may stand at the beginning. -/
def document : Scan Toml := do
  discard <| accept "\ufeff"
  let d ← lines (← bound) {}
  let root ← StateT.lift d.finish
  return root.toToml

end Scan

/-- The root table of a text, unless the text is no TOML. -/
def parse? (text : String) : Option Toml := Scan.document.run' ⟨text.toList, 0⟩

end Vitae.Toml

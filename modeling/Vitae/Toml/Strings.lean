import Vitae.Toml.Cursor

/-! Keys and the four kinds of strings. -/

namespace Vitae.Toml.Scan

def hexValue? (c : Char) : Option Nat :=
  if '0' ≤ c ∧ c ≤ '9' then some (c.toNat - '0'.toNat)
  else if 'a' ≤ c ∧ c ≤ 'f' then some (c.toNat - 'a'.toNat + 10)
  else if 'A' ≤ c ∧ c ≤ 'F' then some (c.toNat - 'A'.toNat + 10)
  else none

/-- The character whose number is written in `n` hexadecimal digits. -/
def numbered (n : Nat) : Scan Char := do
  let cs := (← get).rest.take n
  if cs.length < n then failure
  let ds ← StateT.lift (cs.mapM hexValue?)
  drop n
  let code := ds.foldl (fun m d => 16 * m + d) 0
  if code.isValidChar then return Char.ofNat code else failure

/-- What stands behind a backslash. -/
def escape : Scan Char := do
  let c ← peek
  advance
  match c with
  | some 'b' => return '\x08'
  | some 't' => return '\t'
  | some 'n' => return '\n'
  | some 'f' => return '\x0c'
  | some 'r' => return '\r'
  | some '"' => return '"'
  | some '\\' => return '\\'
  | some 'u' => numbered 4
  | some 'U' => numbered 8
  | _ => failure

/-- Up to the closing quote, which is read. -/
def basicTail : (fuel : Nat) → Scan (List Char)
  | 0 => failure
  | fuel + 1 => do
    let c ← peek
    advance
    match c with
    | some '"' => return []
    | some '\\' =>
      let c ← escape
      return c :: (← basicTail fuel)
    | some c => if isPlain c then return c :: (← basicTail fuel) else failure
    | none => failure

/-- Three to five quotes end a string of many lines, and all but three of them belong to it. -/
def closingQuotes? (quote : Char) : Scan (Option (List Char)) := do
  let n := min 5 ((← get).rest.takeWhile (· = quote)).length
  if n < 3 then return none
  drop n
  return some (List.replicate (n - 3) quote)

/-- Blanks and at least one line end, which a backslash takes away. -/
def foldedLines : (fuel : Nat) → (folded : Bool) → Scan Bool
  | 0, folded => return folded
  | fuel + 1, folded => do
    blanks
    if ← newline then foldedLines fuel true else return folded

def longBasicTail : (fuel : Nat) → Scan (List Char)
  | 0 => failure
  | fuel + 1 => do
    if let some quotes ← closingQuotes? '"' then return quotes
    if ← newline then return '\n' :: (← longBasicTail fuel)
    let c ← peek
    advance
    match c with
    | some '\\' =>
      let here ← get
      if ← foldedLines (← bound) false then longBasicTail fuel
      else
        set here
        let c ← escape
        return c :: (← longBasicTail fuel)
    | some c => if isPlain c then return c :: (← longBasicTail fuel) else failure
    | none => failure

def longLiteralTail : (fuel : Nat) → Scan (List Char)
  | 0 => failure
  | fuel + 1 => do
    if let some quotes ← closingQuotes? '\'' then return quotes
    if ← newline then return '\n' :: (← longLiteralTail fuel)
    let c ← peek
    advance
    match c with
    | some c => if isPlain c then return c :: (← longLiteralTail fuel) else failure
    | none => failure

def basicString : Scan String := do
  expect "\""
  return String.ofList (← basicTail (← bound))

def literalString : Scan String := do
  expect "'"
  let cs ← spanWhile fun c => isPlain c && c ≠ '\''
  expect "'"
  return String.ofList cs

/-- A line end right behind the opening quotes of a string of many lines is not part of it. -/
def string : Scan String := do
  if ← accept "\"\"\"" then
    discard newline
    return String.ofList (← longBasicTail (← bound))
  if ← accept "'''" then
    discard newline
    return String.ofList (← longLiteralTail (← bound))
  if (← peek) = some '"' then basicString else literalString

def isBareKeyChar (c : Char) : Bool := c.isAlphanum || c = '-' || c = '_'

def simpleKey : Scan Key := do
  let start ← offset
  let name ← match ← peek with
    | some '"' => basicString
    | some '\'' => literalString
    | _ =>
      let cs ← spanWhile isBareKeyChar
      if cs.isEmpty then failure
      pure (String.ofList cs)
  return ⟨name, start, ← offset⟩

/-- Parts with dots between them, and blanks around every part. -/
def keyParts : (fuel : Nat) → Scan (List Key)
  | 0 => failure
  | fuel + 1 => do
    blanks
    let k ← simpleKey
    blanks
    if ← accept "." then return k :: (← keyParts fuel) else return [k]

/-- Fewer than eighty parts. -/
def key : Scan (List Key) := keyParts 79

end Vitae.Toml.Scan

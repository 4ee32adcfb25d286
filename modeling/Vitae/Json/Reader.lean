import Vitae.Json.Number

/-! Strings, values that are passed over, and whole values. -/

namespace Vitae.Json

namespace Scan

def hexValue? (c : Char) : Option Nat :=
  if '0' ≤ c ∧ c ≤ '9' then some (c.toNat - '0'.toNat)
  else if 'a' ≤ c ∧ c ≤ 'f' then some (c.toNat - 'a'.toNat + 10)
  else if 'A' ≤ c ∧ c ≤ 'F' then some (c.toNat - 'A'.toNat + 10)
  else none

def byteLength (cs : List Char) : Nat := (cs.map Char.utf8Size).foldl (· + ·) 0

/-- Four hexadecimal digits. The text ends too early if it has fewer than four bytes left. -/
def fourHex : Scan Nat := do
  let cs := (← get).rest.take 4
  if byteLength cs < 4 then throw .ended
  match cs.mapM hexValue? with
  | some [a, b, c, d] =>
    advance; advance; advance; advance
    return 4096 * a + 256 * b + 16 * c + d
  | _ => throw .malformed

def expect (c : Char) : Scan Unit := do
  match ← next with
  | none => throw .ended
  | some d => if d = c then return else throw .malformed

/-- The character that a `\u` escape stands for, the second half of a pair included. -/
def unicodeEscape : Scan Char := do
  let n ← fourHex
  if 0xdc00 ≤ n ∧ n ≤ 0xdfff then throw .malformed
  if 0xd800 ≤ n ∧ n ≤ 0xdbff then
    expect '\\'
    expect 'u'
    let m ← fourHex
    if 0xdc00 ≤ m ∧ m ≤ 0xdfff then
      return Char.ofNat (0x10000 + 0x400 * (n - 0xd800) + (m - 0xdc00))
    throw .malformed
  return Char.ofNat n

/-- A text that is `passed` over may hold halves of pairs. -/
def escape (passed : Bool) : Scan Char := do
  match ← next with
  | none => throw .ended
  | some '"' => return '"'
  | some '\\' => return '\\'
  | some '/' => return '/'
  | some 'b' => return '\x08'
  | some 'f' => return '\x0c'
  | some 'n' => return '\n'
  | some 'r' => return '\r'
  | some 't' => return '\t'
  | some 'u' => if passed then return Char.ofNat (← fourHex) else unicodeEscape
  | some _ => throw .malformed

/-- The rest of a string whose opening quote has been read. -/
def stringTail (passed : Bool) : (fuel : Nat) → Scan (List Char)
  | 0 => throw .ended
  | fuel + 1 => do
    match ← next with
    | none => throw .ended
    | some '"' => return []
    | some '\\' =>
      let c ← escape passed
      return c :: (← stringTail passed fuel)
    | some c =>
      if c.toNat < 0x20 then throw .malformed
      return c :: (← stringTail passed fuel)

/-- A string, from its opening quote on. -/
def string (passed : Bool := false) : Scan String := do
  advance
  return String.ofList (← stringTail passed (← bound))

/-- The colon between a name and its value. -/
def colon : Scan Unit := do
  match ← token with
  | none => throw .ended
  | some ':' => advance
  | some _ => throw .malformed

/-- Whether another item follows, up to the closing bracket, which is left unread. -/
def hasItem (first : Bool) : Scan Bool := do
  match ← token with
  | none => throw .ended
  | some ']' => return false
  | some ',' =>
    if first then return true
    advance
    match ← token with
    | none => throw .ended
    | some ']' => throw .malformed
    | some _ => return true
  | some _ => if first then return true else throw .malformed

/-- Whether another member follows; a member begins with a quote. -/
def hasMember (first : Bool) : Scan Bool := do
  match ← token with
  | none => throw .ended
  | some '}' => return false
  | some ',' =>
    if first then throw .malformed
    advance
    match ← token with
    | none => throw .ended
    | some '"' => return true
    | some _ => throw .malformed
  | some '"' => if first then return true else throw .malformed
  | some _ => throw .malformed

/-- The closing bracket of a list or an object that has been read. -/
def close (bracket : Char) : Scan Unit := do
  match ← token with
  | none => throw .ended
  | some c => if c = bracket then advance else throw .malformed

/-- Nothing but white space is left. -/
def atEnd : Scan Unit := do
  if (← token).isSome then throw .malformed

/-- Where the reader is within a value that it passes over. -/
inductive Passing where
  | beforeValue
  | afterValue
  | beforeName

def closing (isObject : Bool) : Char := if isObject then '}' else ']'

/-- Passes over what is left of a value; `open` lists the brackets to be closed, those of objects
as `true`, innermost first. -/
def pass : (fuel : Nat) → Passing → (unclosed : List Bool) → Scan Unit
  | 0, _, _ => throw .ended
  | fuel + 1, .beforeName, unclosed => do
    match ← token with
    | none => throw .ended
    | some '"' =>
      discard <| string true
      colon
      pass fuel .beforeValue unclosed
    | some _ => throw .malformed
  | _ + 1, .afterValue, [] => return
  | fuel + 1, .afterValue, isObject :: outer => do
    match ← token with
    | none => throw .ended
    | some c =>
      if c = closing isObject then
        advance
        pass fuel .afterValue outer
      else if c = ',' then
        advance
        pass fuel (if isObject then .beforeName else .beforeValue) (isObject :: outer)
      else throw .malformed
  | fuel + 1, .beforeValue, unclosed => do
    match ← token with
    | none => throw .ended
    | some '[' =>
      advance
      if (← token) = some ']' then pass fuel .afterValue (false :: unclosed)
      else pass fuel .beforeValue (false :: unclosed)
    | some '{' =>
      advance
      if (← token) = some '}' then pass fuel .afterValue (true :: unclosed)
      else pass fuel .beforeName (true :: unclosed)
    | some '"' =>
      discard <| string true
      pass fuel .afterValue unclosed
    | some 'n' =>
      advance
      word "ull".toList
      pass fuel .afterValue unclosed
    | some 't' =>
      advance
      word "rue".toList
      pass fuel .afterValue unclosed
    | some 'f' =>
      advance
      word "alse".toList
      pass fuel .afterValue unclosed
    | some c =>
      if c = '-' || Decimal.isDigit c then
        discard <| numeral .malformed
        pass fuel .afterValue unclosed
      else throw .malformed

/-- Every step but the last reads a character or takes one bracket off. -/
def skip : Scan Unit := do pass (2 * (← bound)) .beforeValue []

/-- A value without brackets. -/
def scalar : Scan Json := do
  match ← token with
  | none => throw .ended
  | some 'n' =>
    advance
    word "ull".toList
    return .null
  | some 't' =>
    advance
    word "rue".toList
    return .bool true
  | some 'f' =>
    advance
    word "alse".toList
    return .bool false
  | some '"' => return .str (← string)
  | some c => if c = '-' || Decimal.isDigit c then number else throw .malformed

mutual

/-- A whole value; `depth` bounds its nesting. Of members with one name the
last counts. -/
def value : (depth : Nat) → Scan Json
  | 0 => throw .malformed
  | depth + 1 => do
    match ← token with
    | some '[' =>
      advance
      return .arr (← items depth true (← bound))
    | some '{' =>
      advance
      return .obj (← members depth true (← bound) [])
    | _ => scalar

def items (depth : Nat) (first : Bool) : (fuel : Nat) → Scan (List Json)
  | 0 => throw .ended
  | fuel + 1 => do
    if ← hasItem first then
      let v ← value depth
      return v :: (← items depth false fuel)
    advance
    return []

def members (depth : Nat) (first : Bool) :
    (fuel : Nat) → List (String × Json) → Scan (List (String × Json))
  | 0, _ => throw .ended
  | fuel + 1, seen => do
    if ← hasMember first then
      let name ← string
      colon
      let v ← value depth
      members depth false fuel (insertMember name v seen)
    else
      advance
      return seen

end

end Scan

def Cursor.ofText (text : String) : Cursor := ⟨text.toList, ⟨1, 0⟩⟩

/-- Runs a reader over a whole text. -/
def Scan.run {α : Type} (scan : Scan α) (text : String) : Except TextError α :=
  StateT.run' (do let a ← scan; Scan.atEnd; return a) (Cursor.ofText text)

/-- The value that a text stands for. -/
def parse (text : String) : Except TextError Json := (Scan.value 128).run text

end Vitae.Json

/-! White space, in the sense of Unicode's `White_Space` property. Text is blank when it holds
nothing else; a résumé field that is blank counts as not given. -/

namespace Vitae.Text

/-- The twenty-five characters of `White_Space`. -/
def isSpace (c : Char) : Bool :=
  let n := c.toNat
  (0x09 ≤ n && n ≤ 0x0d) || n == 0x20 || n == 0x85 || n == 0xa0 || n == 0x1680 ||
    (0x2000 ≤ n && n ≤ 0x200a) || n == 0x2028 || n == 0x2029 || n == 0x202f || n == 0x205f ||
    n == 0x3000

def isBlank (s : String) : Bool := s.toList.all isSpace

/-- A field's text, if there is any to show. -/
def nonBlank (field : Option String) : Option String := field.filter (!isBlank ·)

theorem nonBlank_eq_some_iff {field : Option String} {s : String} :
    nonBlank field = some s ↔ field = some s ∧ isBlank s = false := by
  simp [nonBlank, Option.filter_eq_some_iff]

def trimEnd (cs : List Char) : List Char := (cs.reverse.dropWhile isSpace).reverse

def trimList (cs : List Char) : List Char := trimEnd (cs.dropWhile isSpace)

def trim (s : String) : String := String.ofList (trimList s.toList)

/-- The first character of every word, `inWord` telling whether a word is already open. -/
def wordStarts (inWord : Bool) : List Char → List Char
  | [] => []
  | c :: cs =>
    if isSpace c then wordStarts false cs
    else if inWord then wordStarts true cs
    else c :: wordStarts true cs

end Vitae.Text

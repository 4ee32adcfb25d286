/-! JSON values. A number that is written as a whole number is kept apart from one with a point or
an exponent, for a place that wants the first does not take the second. -/

namespace Vitae

inductive Json where
  | null
  | bool (b : Bool)
  | int (n : Int)
  | float (x : Float)
  | str (s : String)
  | arr (items : List Json)
  | obj (members : List (String × Json))
  deriving Inhabited

namespace Json

def ofOption (s : Option String) : Json := s.elim .null .str

def nats (ns : List Nat) : Json := .arr (ns.map fun n : Nat => .int n)

/-- Members stand in the order of their names; a name that is there already gets the new value. -/
def insertMember (name : String) (v : Json) : List (String × Json) → List (String × Json)
  | [] => [(name, v)]
  | (n, w) :: ms =>
    if name < n then (name, v) :: (n, w) :: ms
    else if name = n then (name, v) :: ms
    else (n, w) :: insertMember name v ms

def strs (ss : List String) : Json := .arr (ss.map .str)

end Json

end Vitae

import Vitae.Decimal.Text
import Vitae.Text.Quoted

/-! What can be wrong with a well-formed document that does not say what is wanted, and the words
for it. -/

namespace Vitae

/-- What stands in a document where something else is wanted. -/
inductive Found where
  | null
  | bool (b : Bool)
  | integer (n : Int)
  | float (x : Float)
  | string (s : String)
  | sequence
  | map

inductive Misfit where
  | wrongType (found : Found) (expected : String)
  | wrongValue (found : Found) (expected : String)
  | missingField (name : String)
  | duplicateField (name : String)
  | unknownField (name : String) (known : List String)
  | unknownVariant (name : String) (known : List String)
  | wrongLength (length : Nat) (expected : String)
  /-- The type at hand has words of its own for what it refuses. -/
  | refused (reason : String)
  | notStringOrTable
  /-- A choice in table form names one variant, not none and not several. -/
  | notOneElement (several : Bool)
  /-- A variant without content was given some. -/
  | notEmpty (kind : String)
  | notTable (kind : String)

def Found.describe (style : Decimal.NumberStyle) : Found → String
  | null => "null"
  | bool b => s!"boolean `{b}`"
  | integer n => s!"integer `{n}`"
  | float x => s!"floating point `{Decimal.write style x}`"
  | string s => s!"string {Text.quoted s}"
  | sequence => "sequence"
  | map => "map"

/-- The names to choose from: one, one of two, or a list. -/
def oneOf (names : List String) : String :=
  match names.map fun n => s!"`{n}`" with
  | [a] => a
  | [a, b] => a ++ " or " ++ b
  | quoted => "one of " ++ ", ".intercalate quoted

def Misfit.message (style : Decimal.NumberStyle) : Misfit → String
  | wrongType found expected => s!"invalid type: {found.describe style}, expected {expected}"
  | wrongValue found expected => s!"invalid value: {found.describe style}, expected {expected}"
  | missingField name => s!"missing field `{name}`"
  | duplicateField name => s!"duplicate field `{name}`"
  | unknownField name known => s!"unknown field `{name}`, expected {oneOf known}"
  | unknownVariant name known => s!"unknown variant `{name}`, expected {oneOf known}"
  | wrongLength length expected => s!"invalid length {length}, expected {expected}"
  | refused reason => reason
  | notStringOrTable => "wanted string or table"
  | notOneElement several =>
    "wanted exactly 1 element, " ++ if several then "more than 1 element" else "found 0 elements"
  | notEmpty kind => s!"expected empty {kind}"
  | notTable kind => s!"expected table, found {kind}"

end Vitae

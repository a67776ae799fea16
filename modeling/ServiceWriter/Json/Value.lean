import ServiceWriter.Number.Decimal
import ServiceWriter.Text.CodePoints

/-!
# JSON values

A document as data. An object keeps its entries in the order in which they were written; where a key
is repeated, the last entry counts. A surrogate without a partner is kept in a string but replaced in
a key; none of the keys that are asked for holds either.
-/

set_option autoImplicit false

namespace ServiceWriter

/-- A JSON value. Numbers stay decimal, exactly as written. -/
inductive Json where
  | null
  | bool (value : Bool)
  | number (value : Decimal)
  | string (value : Text.CodePoints)
  | array (items : List Json)
  | object (entries : List (String × Json))
  deriving Inhabited

namespace Json

/-- The string of a text. -/
def text (value : String) : Json := .string (.ofString value)

/-- The value of the last entry with the key. -/
def lookup (key : String) : List (String × Json) → Option Json
  | [] => none
  | (k, v) :: rest =>
    match lookup key rest with
    | some found => some found
    | none => if k = key then some v else none

/-- The value of a key in an object. Other values have no keys. -/
def get? (value : Json) (key : String) : Option Json :=
  match value with
  | .object entries => lookup key entries
  | _ => none

end Json

end ServiceWriter

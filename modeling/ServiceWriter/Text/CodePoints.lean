/-!
# Rows of code points

A string of a JSON document is a row of Unicode code points. Its escapes can spell a surrogate that
has no partner, which no text holds, so the row is a type of its own beside `String`. A row without
surrogates is a text (`text?`); any row can be shown as one (`shown`).
-/

set_option autoImplicit false

namespace ServiceWriter.Text

/-- The character that stands for what is no character. -/
def replacement : Char := '\uFFFD'

/-- A row of code points, in which surrogates may stand. -/
structure CodePoints where
  points : List Nat
  deriving DecidableEq, Repr, Inhabited

namespace CodePoints

/-- The code points of a text. -/
def ofString (text : String) : CodePoints := ⟨text.toList.map Char.toNat⟩

/-- The character of a code point, the replacement character where there is none. -/
def charAt (point : Nat) : Char :=
  if point.isValidChar then Char.ofNat point else replacement

/-- The row as a text, each surrogate replaced. -/
def shown (row : CodePoints) : String := String.ofList (row.points.map charAt)

/-- The text whose code points the row holds, if it is one. -/
def text? (row : CodePoints) : Option String :=
  if row.points.all fun point => point.isValidChar then some row.shown else none

end CodePoints

end ServiceWriter.Text

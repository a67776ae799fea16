/-!
# Sixteen-bit code units

The UTF-16 form of a text: a character of the basic plane is one unit, any other a pair of
surrogates. It fixes the order in which imports are listed and the escapes of string literals. The
order of units differs from the order of characters: a surrogate is smaller than the units from
U+E000 to U+FFFF.
-/

set_option autoImplicit false

namespace ServiceWriter.Text

/-- The one or two units of a character. -/
def charUnits (c : Char) : List Nat :=
  let n := c.toNat
  if n < 0x10000 then
    [n]
  else
    [0xD800 + (n - 0x10000) / 0x400, 0xDC00 + (n - 0x10000) % 0x400]

/-- The units of a text. -/
def units (text : String) : List Nat :=
  text.toList.flatMap charUnits

/-- Lists of units compared unit by unit, a proper beginning of a list before the list. -/
def notAfter : List Nat → List Nat → Bool
  | [], _ => true
  | _ :: _, [] => false
  | a :: as, b :: bs => if a = b then notAfter as bs else a < b

/-- Texts compared by their units. -/
def unitsLe (a b : String) : Bool :=
  notAfter (units a) (units b)

/-- Texts in ascending order of their units. -/
def sortByUnits (texts : List String) : List String :=
  texts.mergeSort unitsLe

end ServiceWriter.Text

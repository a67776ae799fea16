import ServiceWriter.Text.CodePoints

/-!
# Blank rows of code points

A row of code points is blank when it holds nothing but white space and line terminators. The set is the space
separators of Unicode, the tabulations, the form feed, the four line terminators and the zero width
no-break space. Next line (U+0085), the Mongolian vowel separator (U+180E) and the zero width space
(U+200B) do not belong to it.
-/

set_option autoImplicit false

namespace ServiceWriter.Text

/-- The code point of white space or of a line terminator. -/
def isBlankPoint (n : Nat) : Bool :=
  (0x09 ≤ n && n ≤ 0x0D) || n == 0x20 || n == 0xA0 || n == 0x1680 || (0x2000 ≤ n && n ≤ 0x200A)
    || n == 0x2028 || n == 0x2029 || n == 0x202F || n == 0x205F || n == 0x3000 || n == 0xFEFF

/-- A row with no code point outside the blank ones. -/
def CodePoints.isBlank (row : CodePoints) : Bool :=
  row.points.all isBlankPoint

end ServiceWriter.Text

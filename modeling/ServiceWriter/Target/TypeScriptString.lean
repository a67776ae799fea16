import ServiceWriter.Text.Units

/-!
# String literals of TypeScript

A literal stands in double quotes and is all ASCII. Control characters, the quote and the backslash
are escaped, by a letter where there is one, and every character past U+007F is written as the escapes
of its sixteen-bit units. NUL is `\0`, unless a digit follows, which would continue that escape.
-/

set_option autoImplicit false

namespace ServiceWriter.TypeScript

open Text

/-- A digit of a number below sixteen, in upper case. -/
def hexDigit (n : Nat) : Char :=
  if n < 10 then Char.ofNat ('0'.toNat + n) else Char.ofNat ('A'.toNat + (n - 10))

/-- The escape of one unit by its number. -/
def unitEscape (unit : Nat) : List Char :=
  ['\\', 'u', hexDigit (unit / 0x1000 % 16), hexDigit (unit / 0x100 % 16),
    hexDigit (unit / 0x10 % 16), hexDigit (unit % 16)]

/-- Whether a text goes on with a digit. -/
def startsWithDigit : List Char → Bool
  | [] => false
  | c :: _ => c.isDigit

/-- The character `c` inside a literal, where `rest` comes after it. -/
def escapeChar (c : Char) (rest : List Char) : List Char :=
  match c with
  | '\\' => ['\\', '\\']
  | '"' => ['\\', '"']
  | '\x08' => ['\\', 'b']
  | '\t' => ['\\', 't']
  | '\n' => ['\\', 'n']
  | '\x0b' => ['\\', 'v']
  | '\x0c' => ['\\', 'f']
  | '\r' => ['\\', 'r']
  | '\x00' => if startsWithDigit rest then ['\\', 'x', '0', '0'] else ['\\', '0']
  | c => if c.toNat < 0x20 || 0x7F < c.toNat then (charUnits c).flatMap unitEscape else [c]

/-- The characters between the quotes of a literal. -/
def escapeChars : List Char → List Char
  | [] => []
  | c :: rest => escapeChar c rest ++ escapeChars rest

/-- The literal that denotes a string. -/
def quote (value : String) : String :=
  String.ofList ('"' :: escapeChars value.toList ++ ['"'])

end ServiceWriter.TypeScript

/-!
# String literals of C#

A literal stands in double quotes. The quote, the backslash, the line feed, the carriage return, the
tab and NUL are escaped; all else stands for itself.
-/

set_option autoImplicit false

namespace ServiceWriter.CSharp

/-- A character inside a literal. -/
def escapeChar (c : Char) : List Char :=
  match c with
  | '\\' => ['\\', '\\']
  | '"' => ['\\', '"']
  | '\n' => ['\\', 'n']
  | '\r' => ['\\', 'r']
  | '\t' => ['\\', 't']
  | '\x00' => ['\\', '0']
  | c => [c]

/-- The characters of a literal, with its quotes. -/
def quoteChars (value : List Char) : List Char :=
  '"' :: value.flatMap escapeChar ++ ['"']

/-- The literal that denotes a string. -/
def quote (value : String) : String :=
  String.ofList (quoteChars value.toList)

end ServiceWriter.CSharp

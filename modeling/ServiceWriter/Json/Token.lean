import ServiceWriter.Json.Value

/-!
# JSON tokens

The lexical level of RFC 8259. Characters are read one at a time by `Lexer.step`: between tokens,
inside a bare word (a literal name or a number) or inside a string. White space is the space, the tab,
the line feed and the carriage return, and nothing else.

A string is collected as code points and, for `\u` escapes, sixteen-bit units; `joinUnits` puts
surrogate pairs together at its end. A surrogate without its partner stays.
-/

set_option autoImplicit false

namespace ServiceWriter.Json

/-- The lexical units of a document. -/
inductive Token where
  | openObject
  | closeObject
  | openArray
  | closeArray
  | colon
  | comma
  | text (value : Text.CodePoints)
  | scalar (value : Json)

/-! ## Bare words -/

/-- A digit's value. -/
def digitValue (c : Char) : Nat := c.toNat - '0'.toNat

/-- The number that a row of digits spells. -/
def readDigits (digits : List Char) : Nat :=
  digits.foldl (fun n c => n * 10 + digitValue c) 0

/-- The part of a number after its fraction: nothing, or an exponent with at least one digit. -/
def readExponent : List Char → Option Int
  | [] => some 0
  | e :: rest =>
    if e = 'e' || e = 'E' then
      let (negative, digits) := match rest with
        | '-' :: digits => (true, digits)
        | '+' :: digits => (false, digits)
        | digits => (false, digits)
      if digits.isEmpty || !digits.all Char.isDigit then none
      else if negative then some (-(readDigits digits : Int))
      else some (readDigits digits)
    else
      none

/-- A number without its sign: whole digits without a needless leading zero, then a fraction with at
least one digit if there is a point, then an exponent if there is one. -/
def readUnsigned (negative : Bool) (word : List Char) : Option Decimal :=
  let whole := word.takeWhile Char.isDigit
  let rest := word.dropWhile Char.isDigit
  if whole.isEmpty || (whole.length > 1 && whole.head? == some '0') then
    none
  else
    match rest with
    | '.' :: rest =>
      let fraction := rest.takeWhile Char.isDigit
      if fraction.isEmpty then none
      else (readExponent (rest.dropWhile Char.isDigit)).map fun exponent =>
        ⟨negative, readDigits (whole ++ fraction), exponent - fraction.length⟩
    | _ => (readExponent rest).map fun exponent => ⟨negative, readDigits whole, exponent⟩

/-- A number, with or without a minus sign. -/
def readNumber : List Char → Option Decimal
  | '-' :: word => readUnsigned true word
  | word => readUnsigned false word

/-- A literal name or a number. -/
def readWord (word : List Char) : Option Json :=
  if word = "null".toList then some .null
  else if word = "true".toList then some (.bool true)
  else if word = "false".toList then some (.bool false)
  else (readNumber word).map .number

/-- A character that continues a bare word. -/
def isWordChar (c : Char) : Bool :=
  c.isAlphanum || c == '+' || c == '-' || c == '.'

/-! ## Strings -/

/-- The value of a hexadecimal digit. -/
def hexValue (c : Char) : Option Nat :=
  if c.isDigit then some (c.toNat - '0'.toNat)
  else if 'a' ≤ c && c ≤ 'f' then some (c.toNat - 'a'.toNat + 10)
  else if 'A' ≤ c && c ≤ 'F' then some (c.toNat - 'A'.toNat + 10)
  else none

/-- What the escapes of one character after the backslash stand for. -/
def shortEscape (c : Char) : Option Nat :=
  match c with
  | '"' => some '"'.toNat
  | '\\' => some '\\'.toNat
  | '/' => some '/'.toNat
  | 'b' => some 0x08
  | 'f' => some 0x0C
  | 'n' => some 0x0A
  | 'r' => some 0x0D
  | 't' => some 0x09
  | _ => none

/-- A high surrogate. -/
def isHighSurrogate (n : Nat) : Bool := 0xD800 ≤ n && n ≤ 0xDBFF

/-- A low surrogate. -/
def isLowSurrogate (n : Nat) : Bool := 0xDC00 ≤ n && n ≤ 0xDFFF

/-- The code points of a row of code points and units: pairs of surrogates are put together. -/
def joinUnits : List Nat → List Nat
  | [] => []
  | [n] => [n]
  | high :: low :: rest =>
    if isHighSurrogate high && isLowSurrogate low then
      (0x10000 + (high - 0xD800) * 0x400 + (low - 0xDC00)) :: joinUnits rest
    else
      high :: joinUnits (low :: rest)

/-! ## The lexer -/

/-- Where the lexer stands. The characters of a token in progress are held in reverse order. -/
inductive Lexer.Mode where
  | between
  | word (reversed : List Char)
  | string (reversed : List Nat)
  | escape (reversed : List Nat)
  | hex (reversed : List Nat) (owed : Nat) (unit : Nat)

/-- The tokens read so far, in reverse order, and what is in progress. -/
structure Lexer where
  reversed : List Token
  mode : Lexer.Mode

namespace Lexer

/-- Nothing read yet. -/
def start : Lexer := ⟨[], .between⟩

/-- A character outside words and strings. -/
def stepBetween (tokens : List Token) (c : Char) : Option Lexer :=
  match c with
  | ' ' | '\t' | '\n' | '\r' => some ⟨tokens, .between⟩
  | '\x7b' => some ⟨.openObject :: tokens, .between⟩
  | '\x7d' => some ⟨.closeObject :: tokens, .between⟩
  | '[' => some ⟨.openArray :: tokens, .between⟩
  | ']' => some ⟨.closeArray :: tokens, .between⟩
  | ':' => some ⟨.colon :: tokens, .between⟩
  | ',' => some ⟨.comma :: tokens, .between⟩
  | '"' => some ⟨tokens, .string []⟩
  | c => if isWordChar c then some ⟨tokens, .word [c]⟩ else none

/-- Ends a bare word. -/
def endWord (tokens : List Token) (reversed : List Char) : Option (List Token) :=
  (readWord reversed.reverse).map fun value => .scalar value :: tokens

/-- Reads one character, or refuses it. -/
def step (lexer : Lexer) (c : Char) : Option Lexer :=
  let tokens := lexer.reversed
  match lexer.mode with
  | .between => stepBetween tokens c
  | .word reversed =>
    if isWordChar c then
      some ⟨tokens, .word (c :: reversed)⟩
    else
      (endWord tokens reversed).bind fun tokens => stepBetween tokens c
  | .string reversed =>
    if c = '"' then
      some ⟨.text ⟨joinUnits reversed.reverse⟩ :: tokens, .between⟩
    else if c = '\\' then
      some ⟨tokens, .escape reversed⟩
    else if c.toNat < 0x20 then
      none
    else
      some ⟨tokens, .string (c.toNat :: reversed)⟩
  | .escape reversed =>
    if c = 'u' then
      some ⟨tokens, .hex reversed 4 0⟩
    else
      (shortEscape c).map fun n => ⟨tokens, .string (n :: reversed)⟩
  | .hex reversed owed unit =>
    (hexValue c).map fun digit =>
      let unit := unit * 16 + digit
      if owed ≤ 1 then ⟨tokens, .string (unit :: reversed)⟩
      else ⟨tokens, .hex reversed (owed - 1) unit⟩

/-- The tokens at the end of the text, unless a string is still open. -/
def finish (lexer : Lexer) : Option (List Token) :=
  match lexer.mode with
  | .between => some lexer.reversed.reverse
  | .word reversed => (endWord lexer.reversed reversed).map List.reverse
  | _ => none

end Lexer

/-- The tokens of a text, or nothing if some part of it is no token. -/
def tokens? (text : List Char) : Option (List Token) :=
  (text.foldlM Lexer.step Lexer.start).bind Lexer.finish

end ServiceWriter.Json

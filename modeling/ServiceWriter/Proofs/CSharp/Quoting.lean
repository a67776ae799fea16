import ServiceWriter.Target.CSharpString

/-!
# String literals read back

A string literal can be read off the front of a text, whatever comes after it (`readInside_append`):
a quote or a backslash in the string is escaped, so that the first quote that is not escaped is the
one that closes the literal.
-/

set_option autoImplicit false

namespace ServiceWriter.CSharp

/-- The character that a letter stands for behind a backslash. -/
def unescape : Char → Char
  | 'n' => '\n'
  | 'r' => '\r'
  | 't' => '\t'
  | '0' => '\x00'
  | c => c

/-- A character before what else has been read. -/
def prepend (c : Char) : List Char × List Char → List Char × List Char
  | (value, rest) => (c :: value, rest)

/-- Reads a literal behind its first quote: the string and what comes after the closing quote. -/
def readInside : List Char → Option (List Char × List Char)
  | [] => none
  | '"' :: rest => some ([], rest)
  | '\\' :: c :: rest => (readInside rest).map (prepend (unescape c))
  | c :: rest => (readInside rest).map (prepend c)

/-- An escaped character is read as one. -/
theorem readInside_escapeChar (c : Char) (rest : List Char) :
    readInside (escapeChar c ++ rest) = (readInside rest).map (prepend c) := by
  unfold escapeChar
  split
  · rfl
  · rfl
  · rfl
  · rfl
  · rfl
  · rfl
  · rename_i notBackslash notQuote _ _ _ _
    rw [List.cons_append, List.nil_append, readInside]
    · exact notQuote
    · intro d others backslash
      exact absurd backslash notBackslash

/-- **String literals are read back**, whatever comes after them. -/
theorem readInside_append (value rest : List Char) :
    readInside (value.flatMap escapeChar ++ '"' :: rest) = some (value, rest) := by
  induction value with
  | nil => rfl
  | cons c value ih =>
    rw [List.flatMap_cons, List.append_assoc, readInside_escapeChar, ih]
    rfl

end ServiceWriter.CSharp

/-!
# Identifiers

An identifier starts with a basic Latin letter or an underscore and goes on with letters, digits and
underscores. Both target languages admit more than this; the generator admits only what is an
identifier in either.
-/

set_option autoImplicit false

namespace ServiceWriter.Text

/-- A character that may start an identifier. -/
def isIdentifierStart (c : Char) : Bool :=
  c.isAlpha || c == '_'

/-- A character that may stand after the first one of an identifier. -/
def isIdentifierPart (c : Char) : Bool :=
  c.isAlphanum || c == '_'

/-- The test of `isIdentifier`, on the characters of the name. -/
def isIdentifierChars : List Char → Bool
  | [] => false
  | c :: rest => isIdentifierStart c && rest.all isIdentifierPart

/-- Whether the whole of `name` is an identifier. The empty name is none. -/
def isIdentifier (name : String) : Bool :=
  isIdentifierChars name.toList

end ServiceWriter.Text

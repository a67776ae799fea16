import ServiceWriter.Json.Token

/-!
# Reading JSON

The syntactic level of RFC 8259. Tokens are read one at a time, with the containers that are still
open on a stack and a note of what may come next; a document is read when the one value is complete
and no container is open.
-/

set_option autoImplicit false

namespace ServiceWriter.Json

/-- An open container with its complete parts in reverse order. An object also holds the key whose
value is being read. -/
inductive Frame where
  | array (reversed : List Json)
  | object (reversed : List (String × Json)) (key : String)

/-- What may come next, together with what is complete of the innermost container. -/
inductive Expecting where
  /-- A value. -/
  | value
  /-- The first value of an array, or its end. -/
  | firstItem
  /-- The first key of an object, or its end. -/
  | firstKey
  /-- A further key of an object. -/
  | key (reversed : List (String × Json))
  /-- The colon after a key. -/
  | colon (reversed : List (String × Json)) (key : String)
  /-- A comma in, or the end of, the innermost container, whose last part is the value. At the
  outermost level: nothing more. -/
  | after (value : Json)

/-- The open containers, innermost first, and what may come next. -/
structure Reader where
  stack : List Frame
  expecting : Expecting

namespace Reader

/-- Nothing read yet. -/
def start : Reader := ⟨[], .value⟩

/-- A token that starts a value. -/
def startValue (stack : List Frame) : Token → Option Reader
  | .text value => some ⟨stack, .after (.string value)⟩
  | .scalar value => some ⟨stack, .after value⟩
  | .openArray => some ⟨stack, .firstItem⟩
  | .openObject => some ⟨stack, .firstKey⟩
  | _ => none

/-- A token after a complete value: the innermost container takes the value and goes on or ends. -/
def afterValue (value : Json) : List Frame → Token → Option Reader
  | .array items :: stack, .comma => some ⟨.array (value :: items) :: stack, .value⟩
  | .array items :: stack, .closeArray => some ⟨stack, .after (.array (value :: items).reverse)⟩
  | .object entries key :: stack, .comma => some ⟨stack, .key ((key, value) :: entries)⟩
  | .object entries key :: stack, .closeObject =>
    some ⟨stack, .after (.object ((key, value) :: entries).reverse)⟩
  | _, _ => none

/-- Reads one token, or refuses it. -/
def step (reader : Reader) (token : Token) : Option Reader :=
  let stack := reader.stack
  match reader.expecting, token with
  | .value, token => startValue stack token
  | .firstItem, .closeArray => some ⟨stack, .after (.array [])⟩
  | .firstItem, token => startValue (.array [] :: stack) token
  | .firstKey, .closeObject => some ⟨stack, .after (.object [])⟩
  | .firstKey, .text key => some ⟨stack, .colon [] key.shown⟩
  | .key entries, .text key => some ⟨stack, .colon entries key.shown⟩
  | .colon entries key, .colon => some ⟨.object entries key :: stack, .value⟩
  | .after value, token => afterValue value stack token
  | _, _ => none

/-- The document, if one value is complete and no container is open. -/
def finish : Reader → Option Json
  | ⟨[], .after value⟩ => some value
  | _ => none

end Reader

/-- The value that a text spells, or nothing if it is not JSON. -/
def parse? (text : String) : Option Json :=
  ((tokens? text.toList).bind (·.foldlM Reader.step Reader.start)).bind Reader.finish

end ServiceWriter.Json

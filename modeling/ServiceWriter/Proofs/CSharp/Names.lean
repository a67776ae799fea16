import ServiceWriter.Proofs.CSharp.Pieces

/-!
# The names in a C# text

A C# text is made of words and signs of the language, constants, names that were checked and names
of types (`IsPiece`). Names of types are not checked. They stand in the text as in the tree: as the
keyword of the type, by the full name or by the simple name.
-/

set_option autoImplicit false

namespace ServiceWriter.CSharp

open Text

/-! ## Pieces -/

/-- The words and signs that are the same in every text. -/
def fixedTexts : List String := [
  "\n", " ", ".", ", ", ";", "(", ")", "<", ">", "\x7b", "\x7d", " = ", "==", "!=", "&&", "||",
  "this", "new ", "if (", "else", "return;", "return ", "get", "set", "using ", "namespace ",
  " class ", " partial", " static", "public", "private", "protected", "internal"]

/-- A piece of a text in which the types of the tree have the given names. -/
inductive IsPiece (words : ReservedWords) (types : List String) : String → Prop
  | fixed {text : String} (listed : text ∈ fixedTexts) : IsPiece words types text
  | literal (value : Literal) : IsPiece words types (literalText value)
  /-- A name that was checked. -/
  | name {name : String} (free : IsFree words .csharp name) : IsPiece words types name
  /-- The keyword of a type. -/
  | keyword {keyword : String} (listed : keyword ∈ csharpKeywords.map Prod.snd) :
      IsPiece words types keyword
  /-- A type without a keyword, as it is named in the tree. -/
  | fullName {fullName : String} (used : fullName ∈ types)
      (plain : csharpKeywords.lookup fullName = none) : IsPiece words types fullName
  | simpleName {fullName : String} (used : fullName ∈ types)
      (plain : csharpKeywords.lookup fullName = none) : IsPiece words types (simpleName fullName)

/-- The text is made of pieces. -/
abbrev Made (words : ReservedWords) (types : List String) (text : String) : Prop :=
  MadeOf (IsPiece words types) text

variable {words : ReservedWords} {imports types : List String}

theorem made_fixed {text : String} (listed : text ∈ fixedTexts := by decide) :
    Made words types text :=
  .piece (.fixed listed)

/-! ## Rows of a namespace -/

/-- If the names of types are free as well, there are no others. -/
theorem Made.free {text : String} (made : Made words types text)
    (free : ∀ name ∈ types, csharpKeywords.lookup name = none → IsFreeDotted words .csharp name) :
    Made words [] text := by
  refine made.refine fun piece holds => ?_
  cases holds with
  | fixed listed => exact made_fixed listed
  | literal value => exact .piece (.literal value)
  | name free => exact .piece (.name free)
  | keyword listed => exact .piece (.keyword listed)
  | fullName used plain =>
    exact .dotted (.fixed (by decide)) fun part among => .name (free _ used plain part among)
  | simpleName used plain =>
    exact .piece (.name (free _ used plain _ (dottedParts_simpleName _).2))

end ServiceWriter.CSharp

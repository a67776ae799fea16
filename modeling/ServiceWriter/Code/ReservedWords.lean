import ServiceWriter.Json.Reader

/-!
# Reserved words

The words that may not name anything in a target language. The lists of this program are
`ReservedWords.standard`; the same lists may also be kept in a word file, a JSON object with one list
of strings for each language. A `WordFile` reads its text when it is first asked and remembers the
lists once both are read.
-/

set_option autoImplicit false

namespace ServiceWriter

/-- A language that source text is written in. -/
inductive Language where
  | csharp
  | typescript
  deriving DecidableEq, Repr

/-- The name of a language, also its key in a word file. -/
def Language.name : Language → String
  | .csharp => "csharp"
  | .typescript => "typescript"

/-- The reserved words of both languages. -/
structure ReservedWords where
  csharp : List String
  typescript : List String

namespace ReservedWords

/-- The words of one language. -/
def list (words : ReservedWords) : Language → List String
  | .csharp => words.csharp
  | .typescript => words.typescript

/-- Whether a name is a reserved word. -/
def contains (words : ReservedWords) (language : Language) (name : String) : Bool :=
  (words.list language).contains name

/-- The lists that the emitters use. -/
def standard : ReservedWords where
  csharp := [
    "abstract", "as", "base", "bool", "break", "byte", "case", "catch",
    "char", "checked", "class", "const", "continue", "decimal", "default",
    "delegate", "do", "double", "else", "enum", "event", "explicit",
    "extern", "false", "finally", "fixed", "float", "for", "foreach",
    "goto", "if", "implicit", "in", "int", "interface", "internal", "is",
    "lock", "long", "namespace", "new", "null", "object", "operator", "out",
    "override", "params", "private", "protected", "public", "readonly",
    "ref", "return", "sbyte", "sealed", "short", "sizeof", "stackalloc",
    "static", "string", "struct", "switch", "this", "throw", "true", "try",
    "typeof", "uint", "ulong", "unchecked", "unsafe", "ushort", "using",
    "virtual", "void", "volatile", "while"]
  typescript := [
    "arguments", "await", "break", "case", "catch", "class", "const",
    "continue", "debugger", "default", "delete", "do", "else", "enum",
    "eval", "export", "extends", "false", "finally", "for", "function",
    "if", "implements", "import", "in", "instanceof", "interface", "let",
    "new", "null", "package", "private", "protected", "public", "return",
    "static", "super", "switch", "this", "throw", "true", "try", "typeof",
    "var", "void", "while", "with", "yield"]

end ReservedWords

/-! ## Word files -/

/-- Why a word file could not be read: its text is not JSON, or the list of a language is missing or
not a list of strings. -/
inductive WordFileError where
  | notJson
  | badList (language : Language)
  deriving DecidableEq, Repr

/-- The strings of a list of JSON values, if all of them are strings. -/
def Json.strings? : List Json → Option (List Text.CodePoints)
  | [] => some []
  | .string s :: rest => (strings? rest).map (s :: ·)
  | _ :: _ => none

/-- The list of one language in a word file. A string that is no text equals no name and is left
out. -/
def readWordList (document : Json) (language : Language) : Except WordFileError (List String) :=
  match document.get? language.name with
  | some (.array items) =>
    match Json.strings? items with
    | some words => .ok (words.filterMap (·.text?))
    | none => .error (.badList language)
  | _ => .error (.badList language)

/-- Both lists of a word file, the one for C# read first. -/
def ReservedWords.read (text : String) : Except WordFileError ReservedWords :=
  match Json.parse? text with
  | none => .error .notJson
  | some document => do
    let csharp ← readWordList document .csharp
    let typescript ← readWordList document .typescript
    pure ⟨csharp, typescript⟩

/-- A word file and the lists read from it, once they have been read. -/
structure WordFile where
  text : String
  loaded : Option ReservedWords := none

namespace WordFile

/-- The lists, read on the first success and remembered from then on. -/
def load (file : WordFile) : Except WordFileError ReservedWords × WordFile :=
  match file.loaded with
  | some words => (.ok words, file)
  | none =>
    match ReservedWords.read file.text with
    | .ok words => (.ok words, { file with loaded := some words })
    | .error e => (.error e, file)

/-- Whether a name is reserved in a language, according to the file. -/
def ask (file : WordFile) (name : String) (language : Language) :
    Except WordFileError Bool × WordFile :=
  let (words, file) := file.load
  (words.map (·.contains language name), file)

/-- The answers to a list of questions, asked one after another. -/
def askAll (file : WordFile) : List (String × Language) → List (Except WordFileError Bool)
  | [] => []
  | (name, language) :: rest =>
    let (answer, file) := file.ask name language
    answer :: askAll file rest

end WordFile

end ServiceWriter

/-!
# Pascal case

The words of a text are its maximal runs of basic Latin letters and digits. Pascal case writes the
words without anything between them, each with its first letter in upper case.
-/

set_option autoImplicit false

namespace ServiceWriter.Text

/-- Keeps letters and digits and drops the rest. `atStart` says that no letter or digit stands
directly before, so that the next one starts a word. -/
def pascalChars (atStart : Bool) : List Char → List Char
  | [] => []
  | c :: rest =>
    if c.isAlphanum then
      (if atStart then c.toUpper else c) :: pascalChars false rest
    else
      pascalChars true rest

/-- The text in Pascal case: `url-shortener` becomes `UrlShortener`. -/
def pascalCase (text : String) : String :=
  String.ofList (pascalChars true text.toList)

end ServiceWriter.Text

/-!
# Splitting at a character

Three ways to take a text apart at a separating character: at each one, at the first one and at the
last one. The separators themselves are left out.
-/

set_option autoImplicit false

namespace ServiceWriter.Text

/-- The stretches of a character list between separators. There is always at least one, and a
separator at either end, or two in a row, leaves an empty stretch. -/
def splitEach (separator : Char) : List Char → List (List Char)
  | [] => [[]]
  | c :: rest =>
    if c = separator then
      [] :: splitEach separator rest
    else
      match splitEach separator rest with
      | [] => [[c]]
      | part :: parts => (c :: part) :: parts

/-- What stands before and after the first separator, if there is one. -/
def splitFirst (separator : Char) : List Char → Option (List Char × List Char)
  | [] => none
  | c :: rest =>
    if c = separator then
      some ([], rest)
    else
      (splitFirst separator rest).map fun (before, after) => (c :: before, after)

/-- What stands before and after the last separator, if there is one. -/
def splitLast (separator : Char) : List Char → Option (List Char × List Char)
  | [] => none
  | c :: rest =>
    match splitLast separator rest with
    | some (before, after) => some (c :: before, after)
    | none => if c = separator then some ([], rest) else none

end ServiceWriter.Text

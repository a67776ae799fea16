import ServiceWriter.Text.Split

/-!
# Paths

An absolute path is the list of its names from the root. A path as it is written is resolved against
the working directory: empty names and single dots are skipped and a double dot takes back the name
before it.
-/

set_option autoImplicit false

namespace ServiceWriter.CommandLine

open Text

/-- An absolute path. -/
abbrev Path := List String

namespace Path

/-- Goes from a path to what a name leads to. -/
def enter (path : Path) (name : String) : Path :=
  if name = "" || name = "." then path
  else if name = ".." then path.dropLast
  else path ++ [name]

/-- The path that a text denotes, seen from a working directory. -/
def resolve (workingDirectory : Path) (text : String) : Path :=
  let names := (splitEach '/' text.toList).map String.ofList
  let start := if text.toList.head? = some '/' then [] else workingDirectory
  names.foldl enter start

/-- The written form of a path. -/
def text (path : Path) : String := "/" ++ "/".intercalate path

/-- The directory that a path lies in; the root lies in itself. -/
def parent (path : Path) : Path := path.dropLast

end Path

end ServiceWriter.CommandLine

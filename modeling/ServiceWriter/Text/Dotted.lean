import ServiceWriter.Text.Split

/-!
# Dotted names

A qualified name is a sequence of parts with dots between them. Two ways to take one apart are
needed: all its parts, and what stands before and after its last dot.
-/

set_option autoImplicit false

namespace ServiceWriter.Text

/-- The parts of a dotted name, from left to right. -/
def dottedParts (name : String) : List String :=
  (splitEach '.' name.toList).map String.ofList

/-- The namespace of a full name: everything before its last dot, and nothing for a name without
dots. -/
def namespaceOf (fullName : String) : String :=
  match splitLast '.' fullName.toList with
  | some (before, _) => String.ofList before
  | none => ""

/-- The simple name of a full name: everything after its last dot, or all of a name without dots. -/
def simpleName (fullName : String) : String :=
  match splitLast '.' fullName.toList with
  | some (_, after) => String.ofList after
  | none => fullName

end ServiceWriter.Text

import ServiceWriter.Text.LowerCase
import ServiceWriter.Code.TypeName
import ServiceWriter.Target.TypeScriptSyntax

/-!
# Imports

A type of another namespace is imported by its simple name from the module of its namespace: the one
configured for that namespace, or else the namespace's own name in lower case. `referTo` records a
reference under its simple name; the first type to claim a simple name keeps it.
-/

set_option autoImplicit false

namespace ServiceWriter

open Text

/-- The modules configured for namespaces. The first entry for a namespace counts. -/
abbrev Modules := List (String × String)

/-- The module that the types of a namespace are imported from. -/
def moduleFor (modules : Modules) (space : String) : String :=
  (modules.lookup space).getD (lowerCase space)

/-- The types referred to so far: simple name and full name, in order of first reference. -/
abbrev References := List (String × String)

namespace References

/-- Records a reference to a type under its simple name. If the name already stands for another type,
nothing is recorded and that type's full name is given back. -/
def referTo (references : References) (fullName : String) : References × Option String :=
  let name := simpleName fullName
  match references.lookup name with
  | none => (references ++ [(name, fullName)], none)
  | some previous => (references, if previous = fullName then none else some previous)

/-- The imports that the references need: one for each module, modules and names in ascending
order. -/
def imports (references : References) (modules : Modules) : List TypeScript.Import :=
  let located := references.map fun (name, fullName) =>
    (moduleFor modules (namespaceOf fullName), name)
  (sortByUnits (located.map Prod.fst).eraseDups).map fun specifier =>
    ⟨specifier, sortByUnits ((located.filter (·.1 == specifier)).map Prod.snd)⟩

end References

end ServiceWriter

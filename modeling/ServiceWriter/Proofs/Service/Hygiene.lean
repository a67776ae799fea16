import ServiceWriter.Proofs.Scope.Block
import ServiceWriter.Proofs.Service.Pipeline

/-!
# Hygiene of generated classes

Neither a generator nor an emitter looks at scopes: the names of the ObjectToJson capability must be
different only as far as they are names of members. Whether the blocks of an accepted class are
hygienic is therefore up to the names (`generated_hygiene`): the writer must not be called like the
parameter, and neither of them, nor the settings, like a type that is printed by its simple name in
the same body. The names used by default keep apart.
-/

set_option autoImplicit false

namespace ServiceWriter

open Text

/-! ## The capability -/

/-- The names that share a scope keep apart from each other and from the types there, where a type is
printed by its simple name if `isShort` holds of its namespace. -/
structure ObjectToJsonNames.KeepApart (isShort : String → Bool) (names : ObjectToJsonNames) :
    Prop where
  /-- The writer is not called like the parameter. -/
  writer_ne_parameter : names.writerVariable ≠ names.parameterName
  /-- Neither is called like the type of the writer. -/
  writer_free : ∀ name ∈ [names.writerVariable, names.parameterName],
    isShort (namespaceOf ObjectToJson.stringWriterType) = true →
      simpleName ObjectToJson.stringWriterType ≠ name
  /-- The settings are not called like a type that the creation of the serializer names. -/
  settings_free : ∀ type ∈
      [ObjectToJson.settingsType, ObjectToJson.nullHandlingType, ObjectToJson.serializerType],
    isShort (namespaceOf type) = true → simpleName type ≠ names.settingsVariable

namespace ObjectToJson

variable (names : ObjectToJsonNames)

end ObjectToJson

/-- What must be apart in the members that a decorator adds. Nothing is known of members that a
caller gives. -/
def Decorator.KeepsApart (printed : String → String) (isShort : String → Bool) :
    Decorator → Prop
  | .objectToJson names => names.KeepApart isShort
  | .append members => ∀ m ∈ members, m.IsHygienic printed

section

variable {words : ReservedWords} {c : ClassDecl} {n : Namespace} {text : String}

end

/-- A service called `Books`. -/
def books : ServiceDescription where
  name := ⟨[66, 111, 111, 107, 115]⟩

end ServiceWriter

import ServiceWriter.Text.Blank
import ServiceWriter.Json.Reader
import ServiceWriter.Defect.Basic

/-!
# Service descriptions

The part of a discovery document that the generator reads: the name of the service, which must not be
blank, and its version, title and description, which may be missing but must be strings if they are
there. The first condition that fails is reported, in this order. The strings are kept just as the
document has them.
-/

set_option autoImplicit false

namespace ServiceWriter

open Text

/-- What a discovery document says of a service. -/
structure ServiceDescription where
  name : CodePoints
  version : Option CodePoints := none
  title : Option CodePoints := none
  description : Option CodePoints := none
  deriving DecidableEq, Repr

namespace ServiceDescription

/-- An entry that may be missing. An entry that is there must be a string; `null` is none. -/
def optionalText (document : Json) (key subject : String) :
    Except Defect (Option CodePoints) :=
  match document.get? key with
  | none => .ok none
  | some (.string value) => .ok (some value)
  | some _ => .error ⟨.notText key, subject⟩

/-- The name of the service. -/
def serviceName (document : Json) (subject : String) : Except Defect CodePoints :=
  match document.get? "name" with
  | some (.string name) => if name.isBlank then .error ⟨.missingName, subject⟩ else .ok name
  | _ => .error ⟨.missingName, subject⟩

/-- The description in a document. The subject says which document it is. -/
def ofJson (document : Json) (subject : String) : Except Defect ServiceDescription :=
  match document with
  | .object _ => do
    let name ← serviceName document subject
    let version ← optionalText document "version" subject
    let title ← optionalText document "title" subject
    let description ← optionalText document "description" subject
    pure { name, version, title, description }
  | _ => .error ⟨.notAnObject, subject⟩

/-- The description in the text of a document. `reason` puts into words that a text is not JSON. -/
def ofText (text subject reason : String) : Except Defect ServiceDescription :=
  match Json.parse? text with
  | some document => ofJson document subject
  | none => .error ⟨.malformedJson reason, subject⟩

end ServiceDescription

end ServiceWriter

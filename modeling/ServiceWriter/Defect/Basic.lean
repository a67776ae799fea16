import ServiceWriter.Number.Shortest
import ServiceWriter.Code.ReservedWords

/-!
# Defects

What can be wrong with a code tree, with a class under generation or with a service description, as a
cause and the subject it concerns: the name of a class, a member or a file. Code, message and
suggestion are read off the cause. Several defects are reported together, one on a line.
-/

set_option autoImplicit false

namespace ServiceWriter

/-- The classes of defects that a report distinguishes. -/
inductive DefectCode where
  | invalidIdentifier
  | unsupportedNode
  | duplicateMember
  | invalidServiceDescription
  | internalError
  deriving DecidableEq, Repr

/-- The name of a code in a report. -/
def DefectCode.name : DefectCode → String
  | .invalidIdentifier => "InvalidIdentifier"
  | .unsupportedNode => "UnsupportedNode"
  | .duplicateMember => "DuplicateMember"
  | .invalidServiceDescription => "InvalidServiceDescription"
  | .internalError => "InternalError"

/-- What is wrong. The last case is a defect that someone else found and put into words. -/
inductive Cause where
  /-- A name that is no identifier. -/
  | notIdentifier (name : String)
  /-- A name that is an identifier but reserved in the target language. -/
  | reservedWord (name : String)
  /-- A node of a kind that does not belong where it stands. -/
  | unsupportedKind (kind : String)
  /-- A number that has no literal. -/
  | nonFinite (number : Binary64)
  /-- A simple name under which two different types would be imported. -/
  | ambiguousType (name first second : String)
  /-- A name that two members of a class share. -/
  | repeatedMember (name : String)
  /-- A service description that is not JSON, with the reader's reason. -/
  | malformedJson (reason : String)
  /-- A service description that is not an object. -/
  | notAnObject
  /-- A service description without a name. -/
  | missingName
  /-- An entry of a service description that is no string. -/
  | notText (key : String)
  /-- A word file without a proper list for a language. -/
  | badWordList (language : Language)
  /-- A defect in someone else's words. -/
  | stated (code : DefectCode) (message : String) (suggestion : Option String)
  deriving DecidableEq, Repr

namespace Cause

/-- The code of a cause. -/
def code : Cause → DefectCode
  | .notIdentifier _ | .reservedWord _ => .invalidIdentifier
  | .unsupportedKind _ | .nonFinite _ | .ambiguousType .. => .unsupportedNode
  | .repeatedMember _ => .duplicateMember
  | .malformedJson _ | .notAnObject | .missingName | .notText _ => .invalidServiceDescription
  | .badWordList _ => .internalError
  | .stated code _ _ => code

/-- A text in double quotes, as it stands. -/
def quoted (text : String) : String := "\"" ++ text ++ "\""

/-- The message of a cause. -/
def message : Cause → String
  | .notIdentifier name => quoted name ++ " is not a valid identifier"
  | .reservedWord name => quoted name ++ " is a reserved word"
  | .unsupportedKind kind => "Unsupported node kind: " ++ kind
  | .nonFinite number => "Cannot emit non-finite number " ++ number.text
  | .ambiguousType name first second =>
    "Type name " ++ quoted name ++ " refers to both " ++ first ++ " and " ++ second
  | .repeatedMember name => "Member " ++ quoted name ++ " is declared more than once"
  | .malformedJson reason => "Invalid JSON: " ++ reason
  | .notAnObject => "Discovery document must be a JSON object"
  | .missingName => "Missing service \"name\""
  | .notText key => quoted key ++ " must be a string"
  | .badWordList language =>
    "Reserved word list for " ++ language.name ++ " is missing or malformed"
  | .stated _ message _ => message

/-- What could be done about it, where there is something to say. -/
def suggestion : Cause → Option String
  | .reservedWord _ => some "Choose a different name"
  | .repeatedMember _ => some "Check that each decorator is applied only once"
  | .missingName => some "Add a non-empty \"name\" field to the discovery document."
  | .stated _ _ suggestion => suggestion
  | _ => none

end Cause

/-- A cause together with what it concerns. -/
structure Defect where
  cause : Cause
  subject : String
  deriving DecidableEq, Repr

namespace Defect

/-- The code of a defect. -/
def code (d : Defect) : DefectCode := d.cause.code

/-- The message of a defect. -/
def message (d : Defect) : String := d.cause.message

/-- The suggestion of a defect. -/
def suggestion (d : Defect) : Option String := d.cause.suggestion

/-- The part of a report's line after the message. An empty suggestion is not written. -/
def hint (d : Defect) : String :=
  match d.suggestion with
  | some suggestion => if suggestion = "" then "" else " (hint: " ++ suggestion ++ ")"
  | none => ""

/-- The line of one defect in a report. -/
def line (d : Defect) : String :=
  "- [" ++ d.code.name ++ "] " ++ d.subject ++ ": " ++ d.message ++ d.hint

/-- The report on several defects: how many there are, then a line for each. -/
def report (defects : List Defect) : String :=
  "\n".intercalate
    (("Code generation failed with " ++ toString defects.length ++ " error(s):")
      :: defects.map line)

end Defect

end ServiceWriter

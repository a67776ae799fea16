import ServiceWriter.Text.Identifier
import ServiceWriter.Code.Tree
import ServiceWriter.Code.TypeName
import ServiceWriter.Target.CSharpString
import ServiceWriter.Target.Emission
import ServiceWriter.Target.Layout

/-!
# C# source

The emitter of C# writes a class or a namespace line by line and collects the defects it meets on the
way: names that are no identifiers or reserved, nodes that do not belong where they stand, and numbers
without a literal. The text is given out only if there are none.

The order of defects is the order of the walk. An expression's own name is checked before its target,
its target before its arguments; an initializer comes before the type it is given, which is not
checked at all.
-/

set_option autoImplicit false

namespace ServiceWriter

open Text

/-- The state of the emitter: the defects met, the namespaces imported, the lines written and how deep
the next one stands. -/
structure CSharpEmitter where
  collector : Collector := .empty
  imports : List String := []
  lines : Array String := #[]
  depth : Nat := 0

namespace CSharp

/-- An action of the emitter. -/
abbrev Action (α : Type) := Emit CSharpEmitter α

/-! ## Primitive actions -/

/-- Collects a defect. -/
def report (cause : Cause) (subject : String) : Action Unit :=
  modify fun s => { s with collector := s.collector.add ⟨cause, subject⟩ }

/-- Writes a line at the current depth. An empty line is not indented. -/
def line (text : String) : Action Unit :=
  modify fun s =>
    { s with lines := s.lines.push (if text = "" then "" else Layout.indentation s.depth ++ text) }

/-- Goes one level deeper. -/
def indent : Action Unit := modify fun s => { s with depth := s.depth + 1 }

/-- Comes back one level. -/
def outdent : Action Unit := modify fun s => { s with depth := s.depth - 1 }

/-- Lines between braces, one level deeper. -/
def braced (body : Action Unit) : Action Unit := do
  line "\x7b"
  indent
  body
  outdent
  line "\x7d"

/-- Several actions, with an empty line between each two. -/
def separated : List (Action Unit) → Action Unit
  | [] => pure ()
  | [last] => last
  | action :: rest => do
    action
    line ""
    separated rest

/-! ## Names -/

/-- Checks that a name is an identifier and not reserved. -/
def checkIdentifier (words : Vocabulary) (name subject : String) : Action Unit := do
  if isIdentifier name then
    if ← Emit.isReserved words .csharp name then
      report (.reservedWord name) subject
  else
    report (.notIdentifier name) subject

/-- Checks each of a list of names. -/
def checkIdentifiers (words : Vocabulary) (subject : String) : List String → Action Unit
  | [] => pure ()
  | name :: rest => do
    checkIdentifier words name subject
    checkIdentifiers words subject rest

/-- Checks each part of a dotted name. -/
def checkQualifiedName (words : Vocabulary) (name subject : String) : Action Unit :=
  checkIdentifiers words subject (dottedParts name)

mutual

/-- A type with its arguments. -/
def typeText (imports : List String) : TypeRef → String
  | .mk name arguments =>
    csharpTypeName imports name ++
      (if arguments.isEmpty then "" else "<" ++ ", ".intercalate (typeTexts imports arguments) ++ ">")

/-- A list of types. -/
def typeTexts (imports : List String) : List TypeRef → List String
  | [] => []
  | type :: rest => typeText imports type :: typeTexts imports rest

end

/-- A type as it is written under the current imports. -/
def typeName (type : TypeRef) : Action String :=
  return typeText (← get).imports type

/-! ## Expressions -/

/-- The sign of an operator. -/
def operatorSign : Operator → String
  | .identityEquality | .valueEquality => "=="
  | .identityInequality => "!="
  | .booleanAnd => "&&"
  | .booleanOr => "||"

/-- A constant. A number without a literal is reported. -/
def literal (subject : String) : Literal → Action String
  | .null => return "null"
  | .bool value => return if value then "true" else "false"
  | .text value => return quote value
  | .number value => do
    if value.isFinite then
      return value.text
    else
      report (.nonFinite value) subject
      return "0"

/-- The text of an operand, in parentheses if the operand is itself an application of an operator. -/
def operand (e : Expr) (text : String) : String :=
  if e.isBinary then "(" ++ text ++ ")" else text

mutual

/-- An expression. -/
def expression (words : Vocabulary) (subject : String) : Expr → Action String
  | .literal value => literal subject value
  | .this => return "this"
  | .field target name | .property target name => do
    checkIdentifier words name subject
    let target ← expression words subject target
    return target ++ "." ++ name
  | .variableRef name | .argumentRef name => do
    checkIdentifier words name subject
    return name
  | .typeName type => typeName type
  | .create type arguments => do
    let type ← typeName type
    let arguments ← expressions words subject arguments
    return "new " ++ type ++ "(" ++ ", ".intercalate arguments ++ ")"
  | .invoke target method arguments => do
    checkIdentifier words method subject
    let target ← expression words subject target
    let arguments ← expressions words subject arguments
    return target ++ "." ++ method ++ "(" ++ ", ".intercalate arguments ++ ")"
  | .binary left operator right => do
    let leftText ← expression words subject left
    let rightText ← expression words subject right
    return operand left leftText ++ " " ++ operatorSign operator ++ " " ++ operand right rightText
  | .foreign node => do
    report (.unsupportedKind node.kind) subject
    return ""

/-- A list of expressions, from left to right. -/
def expressions (words : Vocabulary) (subject : String) : List Expr → Action (List String)
  | [] => return []
  | e :: rest => do
    let text ← expression words subject e
    let texts ← expressions words subject rest
    return text :: texts

end

/-- The part of a declaration that gives the initial value, if there is one. -/
def initializer (words : Vocabulary) (subject : String) : Option Expr → Action String
  | none => return ""
  | some e => return " = " ++ (← expression words subject e)

/-! ## Statements -/

mutual

/-- A statement. -/
def statement (words : Vocabulary) (subject : String) : Stmt → Action Unit
  | .declare type name value => do
    checkIdentifier words name subject
    let value ← initializer words subject value
    let type ← typeName type
    line (type ++ " " ++ name ++ value ++ ";")
  | .assign left right => do
    let left ← expression words subject left
    let right ← expression words subject right
    line (left ++ " = " ++ right ++ ";")
  | .condition test whenTrue whenFalse => do
    let test ← expression words subject test
    line ("if (" ++ test ++ ")")
    braced (statements words subject whenTrue)
    if !whenFalse.isEmpty then
      line "else"
      braced (statements words subject whenFalse)
  | .returns none => line "return;"
  | .returns (some value) => do
    let value ← expression words subject value
    line ("return " ++ value ++ ";")
  | .expression value => do
    let value ← expression words subject value
    line (value ++ ";")
  | .foreign node => report (.unsupportedKind node.kind) subject

/-- A list of statements, in order. -/
def statements (words : Vocabulary) (subject : String) : List Stmt → Action Unit
  | [] => pure ()
  | s :: rest => do
    statement words subject s
    statements words subject rest

end

/-! ## Members -/

/-- The words before the type of a member. -/
def modifiers (access : Access) (isStatic : Bool) : String :=
  if isStatic then access.keyword ++ " static" else access.keyword

/-- A field. -/
def field (words : Vocabulary) (owner : String) (f : Field) : Action Unit := do
  let subject := owner ++ "." ++ f.name
  checkIdentifier words f.name subject
  let value ← initializer words subject f.initializer
  let type ← typeName f.type
  line (modifiers f.access f.isStatic ++ " " ++ type ++ " " ++ f.name ++ value ++ ";")

/-- An accessor under its keyword, if the property has it. -/
def accessor (words : Vocabulary) (subject keyword : String) (a : Accessor) : Action Unit :=
  if a.isPresent then do
    line keyword
    braced (statements words subject a.body)
  else
    pure ()

/-- A property. -/
def property (words : Vocabulary) (owner : String) (p : Property) : Action Unit := do
  let subject := owner ++ "." ++ p.name
  checkIdentifier words p.name subject
  let type ← typeName p.type
  line (p.access.keyword ++ " " ++ type ++ " " ++ p.name)
  braced do
    accessor words subject "get" p.getter
    accessor words subject "set" p.setter

/-- The parameters of a method. -/
def parameters (words : Vocabulary) (subject : String) : List Parameter → Action (List String)
  | [] => return []
  | p :: rest => do
    checkIdentifier words p.name subject
    let type ← typeName p.type
    let texts ← parameters words subject rest
    return (type ++ " " ++ p.name) :: texts

/-- A method. -/
def method (words : Vocabulary) (owner : String) (m : Method) : Action Unit := do
  let subject := owner ++ "." ++ m.name
  checkIdentifier words m.name subject
  let parameters ← parameters words subject m.parameters
  let type ← typeName m.returnType
  line (modifiers m.access m.isStatic ++ " " ++ type ++ " " ++ m.name ++
    "(" ++ ", ".intercalate parameters ++ ")")
  braced (statements words subject m.body)

/-- A member of the class `owner`. -/
def member (words : Vocabulary) (owner : String) : Member → Action Unit
  | .field f => field words owner f
  | .property p => property words owner p
  | .method m => method words owner m
  | .foreign _ node => report (.unsupportedKind node.kind) owner

/-! ## Classes and namespaces -/

/-- A class, an empty line between each two members. -/
def classDecl (words : Vocabulary) (c : ClassDecl) : Action Unit := do
  checkIdentifier words c.name c.name
  line (c.access.keyword ++ (if c.isPartial then " partial" else "") ++ " class " ++ c.name)
  braced (separated (c.members.map (member words c.name)))

/-- The directives for a list of imports. -/
def usings (words : Vocabulary) : List String → Action Unit
  | [] => pure ()
  | imported :: rest => do
    checkQualifiedName words imported imported
    line ("using " ++ imported ++ ";")
    usings words rest

/-- A namespace: its imports, an empty line if there are any, and its classes, in braces unless the
namespace has no name. -/
def namespaceDecl (words : Vocabulary) (n : Namespace) : Action Unit := do
  usings words n.imports
  if !n.imports.isEmpty then
    line ""
  let types := separated (n.types.map (classDecl words))
  if n.name = "" then
    types
  else
    checkQualifiedName words n.name n.name
    line ("namespace " ++ n.name)
    braced types

end CSharp

namespace CSharpEmitter

open CSharp

/-- The text of the lines written. -/
def text (emitter : CSharpEmitter) : String :=
  "\n".intercalate emitter.lines.toList ++ "\n"

/-- Runs an action afresh, with the given imports, and gives out the text. Of the state before it
nothing is kept. -/
def emit (imports : List String) (action : Action Unit) :
    StateM CSharpEmitter (Except Failure String) := do
  set { imports : CSharpEmitter }
  let finished ← action.run
  let emitter ← get
  return outcome (finished.map fun _ => emitter.text) emitter.collector

/-- Emits a namespace. Its types are written under its own imports. -/
def emitNamespace (words : Vocabulary) (n : Namespace) :
    StateM CSharpEmitter (Except Failure String) :=
  emit n.imports (namespaceDecl words n)

/-- Emits a class alone, its types written under the given imports. -/
def emitType (words : Vocabulary) (c : ClassDecl) (imports : List String) :
    StateM CSharpEmitter (Except Failure String) :=
  emit imports (classDecl words c)

end CSharpEmitter

end ServiceWriter

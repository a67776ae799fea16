import ServiceWriter.Text.Identifier
import ServiceWriter.Code.Tree
import ServiceWriter.Target.Emission
import ServiceWriter.Target.Imports

/-!
# TypeScript source

The emitter of TypeScript turns a class or a namespace into a syntax tree, collecting defects and
recording the types it refers to on the way, and then lays out the tree under the imports that those
references need. The text is given out only if there are no defects.

Names that declare or read a binding must be identifiers and not reserved; names of members must only
be identifiers. Types are not checked, but two types with one simple name cannot both be imported.
-/

set_option autoImplicit false

namespace ServiceWriter

open Text

/-- The state of the emitter: the modules configured, the defects met, the types referred to and the
namespace whose types need no import. -/
structure TypeScriptEmitter where
  modules : Modules := []
  collector : Collector := .empty
  references : References := []
  localNamespace : String := ""

namespace TypeScript

/-- An action of the emitter. -/
abbrev Action (α : Type) := Emit TypeScriptEmitter α

/-! ## Primitive actions -/

/-- Collects a defect. -/
def report (cause : Cause) (subject : String) : Action Unit :=
  modify fun s => { s with collector := s.collector.add ⟨cause, subject⟩ }

/-- Checks that a name is an identifier. -/
def checkIdentifier (name subject : String) : Action Unit :=
  if isIdentifier name then pure () else report (.notIdentifier name) subject

/-- Checks that a name is an identifier and not reserved. -/
def checkBinding (words : Vocabulary) (name subject : String) : Action Unit := do
  checkIdentifier name subject
  if isIdentifier name then
    if ← Emit.isReserved words .typescript name then
      report (.reservedWord name) subject

/-- Checks each of a list of names. -/
def checkBindings (words : Vocabulary) (subject : String) : List String → Action Unit
  | [] => pure ()
  | name :: rest => do
    checkBinding words name subject
    checkBindings words subject rest

/-- Records a reference to a type that needs an import and gives the name to print, which is always
the simple name. -/
def referenceType (subject fullName : String) : Action String := do
  let name := simpleName fullName
  let space := namespaceOf fullName
  let s ← get
  if !(space = "" || space = s.localNamespace) then
    let (references, conflict) := s.references.referTo fullName
    set { s with references }
    match conflict with
    | some previous => report (.ambiguousType name previous fullName) subject
    | none => pure ()
  return name

/-! ## Types -/

/-- The names that are keywords where a type stands. -/
def keywordTypes : List String := ["object", "string", "boolean", "number", "void"]

mutual

/-- A type where a type stands. A type printed as a keyword loses its arguments. -/
def typeNode (subject : String) : TypeRef → Action TypeNode
  | .mk fullName arguments => do
    let printed := typeScriptTypeName fullName
    if keywordTypes.contains printed then
      return .keyword printed
    else
      let name ← referenceType subject fullName
      let arguments ← typeNodes subject arguments
      return .reference name arguments

/-- A list of types. -/
def typeNodes (subject : String) : List TypeRef → Action (List TypeNode)
  | [] => return []
  | type :: rest => do
    let node ← typeNode subject type
    let nodes ← typeNodes subject rest
    return node :: nodes

end

/-! ## Expressions -/

/-- The sign of an operator. Equality is always the strict one. -/
def operatorSign : Operator → String
  | .identityEquality | .valueEquality => "==="
  | .identityInequality => "!=="
  | .booleanAnd => "&&"
  | .booleanOr => "||"

/-- The methods that every object has under another name in TypeScript. -/
def renamedMethods : List (String × String) := [("ToString", "toString")]

/-- The name under which a method is called. -/
def calledName (method : String) : String :=
  (renamedMethods.lookup method).getD method

/-- A constant. A number without a literal is reported. -/
def literal (subject : String) : Literal → Action Term
  | .null => return .word "null"
  | .bool value => return .word (if value then "true" else "false")
  | .text value => return .text value
  | .number value => do
    if !value.isFinite then
      report (.nonFinite value) subject
      return .number "0"
    else if value.isNegative then
      return .negated value.abs.text
    else
      return .number value.text

/-- An operand, in parentheses if it is itself an application of an operator. -/
def operand (e : Expr) (term : Term) : Term :=
  if e.isBinary then .parenthesised term else term

mutual

/-- An expression. A type that stands for itself, or is created, is printed by its simple name even if
it has a keyword; only the arguments of a created type are printed. -/
def expression (words : Vocabulary) (subject : String) : Expr → Action Term
  | .literal value => literal subject value
  | .this => return .word "this"
  | .field target name | .property target name => do
    checkIdentifier name subject
    let target ← expression words subject target
    return .access target name
  | .variableRef name | .argumentRef name => do
    checkBinding words name subject
    return .name name
  | .typeName type => return .name (← referenceType subject type.name)
  | .create type arguments => do
    let name ← referenceType subject type.name
    let typeArguments ← typeNodes subject type.arguments
    let arguments ← expressions words subject arguments
    return .create name typeArguments arguments
  | .invoke target method arguments => do
    checkIdentifier method subject
    let target ← expression words subject target
    let arguments ← expressions words subject arguments
    return .call (.access target (calledName method)) arguments
  | .binary left operator right => do
    let leftTerm ← expression words subject left
    let rightTerm ← expression words subject right
    return .binary (operand left leftTerm) (operatorSign operator) (operand right rightTerm)
  | .foreign node => do
    report (.unsupportedKind node.kind) subject
    return .name "undefined"

/-- A list of expressions, from left to right. -/
def expressions (words : Vocabulary) (subject : String) : List Expr → Action (List Term)
  | [] => return []
  | e :: rest => do
    let term ← expression words subject e
    let terms ← expressions words subject rest
    return term :: terms

end

/-- An expression that may be absent. -/
def optionalExpression (words : Vocabulary) (subject : String) :
    Option Expr → Action (Option Term)
  | none => return none
  | some e => return some (← expression words subject e)

/-! ## Statements -/

mutual

/-- A statement. One that cannot be emitted is left out. -/
def statement (words : Vocabulary) (subject : String) : Stmt → Action (List Command)
  | .declare type name value => do
    checkBinding words name subject
    let type ← typeNode subject type
    let value ← optionalExpression words subject value
    return [.declare name type value]
  | .assign left right => do
    let left ← expression words subject left
    let right ← expression words subject right
    return [.assign left right]
  | .condition test whenTrue whenFalse => do
    let test ← expression words subject test
    let whenTrue ← statements words subject whenTrue
    let whenFalse ← statements words subject whenFalse
    return [.condition test whenTrue whenFalse]
  | .returns value => do
    let value ← optionalExpression words subject value
    return [.returns value]
  | .expression value => do
    let value ← expression words subject value
    return [.expression value]
  | .foreign node => do
    report (.unsupportedKind node.kind) subject
    return []

/-- A list of statements, in order. -/
def statements (words : Vocabulary) (subject : String) : List Stmt → Action (List Command)
  | [] => return []
  | s :: rest => do
    let first ← statement words subject s
    let others ← statements words subject rest
    return first ++ others

end

/-! ## Members -/

/-- Whether a field starts out as `null`, so that its type must admit it. -/
def startsNull (f : Field) : Bool :=
  match f.initializer with
  | some e => e.isNull
  | none => false

/-- A field. -/
def field (words : Vocabulary) (owner : String) (f : Field) : Action (List Element) := do
  let subject := owner ++ "." ++ f.name
  checkIdentifier f.name subject
  let declared ← typeNode subject f.type
  let type := if startsNull f then .orNull declared else declared
  let value ← optionalExpression words subject f.initializer
  return [.field f.access f.isStatic ⟨f.name, type⟩ value]

/-- An accessor, made an element by `element`, if the property has it. -/
def accessor (words : Vocabulary) (subject : String) (p : Property)
    (element : Access → Binding → List Command → Element) (a : Accessor) :
    Action (List Element) :=
  if a.isPresent then do
    let type ← typeNode subject p.type
    let body ← statements words subject a.body
    return [element p.access ⟨p.name, type⟩ body]
  else
    return []

/-- A property: a getter and a setter, as far as it has them. -/
def property (words : Vocabulary) (owner : String) (p : Property) : Action (List Element) := do
  let subject := owner ++ "." ++ p.name
  checkIdentifier p.name subject
  let getter ← accessor words subject p .getter p.getter
  let setter ← accessor words subject p .setter p.setter
  return getter ++ setter

/-- The parameters of a method. -/
def parameters (words : Vocabulary) (subject : String) : List Parameter → Action (List Binding)
  | [] => return []
  | p :: rest => do
    checkBinding words p.name subject
    let type ← typeNode subject p.type
    let bindings ← parameters words subject rest
    return ⟨p.name, type⟩ :: bindings

/-- A method. -/
def method (words : Vocabulary) (owner : String) (m : Method) : Action (List Element) := do
  let subject := owner ++ "." ++ m.name
  checkIdentifier m.name subject
  let parameters ← parameters words subject m.parameters
  let returnType ← typeNode subject m.returnType
  let body ← statements words subject m.body
  return [.method m.access m.isStatic m.name parameters returnType body]

/-- A member of the class `owner`, as the elements it becomes. -/
def member (words : Vocabulary) (owner : String) : Member → Action (List Element)
  | .field f => field words owner f
  | .property p => property words owner p
  | .method m => method words owner m
  | .foreign _ node => do
    report (.unsupportedKind node.kind) owner
    return []

/-- A list of members, in order. -/
def members (words : Vocabulary) (owner : String) : List Member → Action (List Element)
  | [] => return []
  | m :: rest => do
    let first ← member words owner m
    let others ← members words owner rest
    return first ++ others

/-! ## Classes and namespaces -/

/-- A class. It is exported if everyone may use it. -/
def classNode (words : Vocabulary) (c : ClassDecl) : Action ClassNode := do
  checkBinding words c.name c.name
  let elements ← members words c.name c.members
  return ⟨c.access = .everyone, c.name, elements⟩

/-- A list of classes, in order. -/
def classNodes (words : Vocabulary) : List ClassDecl → Action (List Declaration)
  | [] => return []
  | c :: rest => do
    let node ← classNode words c
    let nodes ← classNodes words rest
    return .classNode node :: nodes

/-- Declarations inside nested namespaces, one for each part of a dotted name. -/
def nested (parts : List String) (body : List Declaration) : List Declaration :=
  parts.foldr (fun part inner => [.space part inner]) body

/-- The declarations of a namespace. Its classes are walked before its own name is checked. -/
def namespaceNodes (words : Vocabulary) (n : Namespace) : Action (List Declaration) := do
  let classes ← classNodes words n.types
  if n.name = "" then
    return classes
  else
    checkBindings words n.name (dottedParts n.name)
    return nested (dottedParts n.name) classes

end TypeScript

namespace TypeScriptEmitter

open TypeScript

/-- An emitter that has emitted nothing yet. -/
def ofModules (modules : Modules) : TypeScriptEmitter := { modules }

/-- Runs an action afresh, inside the given namespace, and gives out the text. Of the state before it
only the configured modules are kept. -/
def emit (localNamespace : String) (action : Action (List Declaration)) :
    StateM TypeScriptEmitter (Except Failure String) := do
  modify fun s => { modules := s.modules, localNamespace }
  let body ← action.run
  let emitter ← get
  let imports := emitter.references.imports emitter.modules
  return outcome (body.map fun body => moduleText imports body) emitter.collector

/-- Emits a namespace. Its list of imports plays no part. -/
def emitNamespace (words : Vocabulary) (n : Namespace) :
    StateM TypeScriptEmitter (Except Failure String) :=
  emit n.name (namespaceNodes words n)

/-- Emits a class alone. -/
def emitType (words : Vocabulary) (c : ClassDecl) :
    StateM TypeScriptEmitter (Except Failure String) :=
  emit "" (classNodes words [c])

end TypeScriptEmitter

end ServiceWriter

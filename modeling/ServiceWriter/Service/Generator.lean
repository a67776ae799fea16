import ServiceWriter.Text.PascalCase
import ServiceWriter.Service.ObjectToJson
import ServiceWriter.Service.Description
import ServiceWriter.Target.CSharp
import ServiceWriter.Target.TypeScript

/-!
# Generating a service class

The class of a service is named after the service and gets its members from decorators, one after
another. A class in which two members share a name is refused, unless that check is turned off. The
class is wrapped in a namespace and emitted in the language asked for.

What a generator says on the way is a log: a line for each decorator and one for the emission, if it is
verbose. The lines said before a failure stay in the log.
-/

set_option autoImplicit false

namespace ServiceWriter

open Text

/-! ## The class -/

/-- The name of the class of a service: its name in Pascal case with `Service` after it, and an
underscore before it if it would start with a digit. -/
def serviceClassName (serviceName : String) : String :=
  let name := pascalCase serviceName ++ "Service"
  match name.toList with
  | c :: _ => if c.isDigit then "_" ++ name else name
  | [] => name

/-- Something that adds members to the class of a service. -/
inductive Decorator where
  /-- The capability to turn objects into JSON. -/
  | objectToJson (names : ObjectToJsonNames)
  /-- Given members. -/
  | append (members : List Member)

namespace Decorator

/-- The name of a decorator in a log. -/
def name : Decorator → String
  | .objectToJson _ => "NewtonsoftObjectToJson"
  | .append _ => "AppendDecorator"

/-- The members that a decorator adds. -/
def members : Decorator → List Member
  | .objectToJson names => ObjectToJson.members names
  | .append members => members

/-- The class with the members of the decorator after its own. -/
def decorate (d : Decorator) (c : ClassDecl) : ClassDecl :=
  { c with members := c.members ++ d.members }

end Decorator

/-- The names that occur more than once, each one time, in the order of their second occurrences.
`seen` are the names before, `repeated` those of them that were found repeated. -/
def repeatedNames (seen repeated : List String) : List String → List String
  | [] => []
  | name :: rest =>
    if !seen.contains name then
      repeatedNames (name :: seen) repeated rest
    else if repeated.contains name then
      repeatedNames seen repeated rest
    else
      name :: repeatedNames seen (name :: repeated) rest

/-- The defects of a class in which members share names. -/
def repeatedMembers (c : ClassDecl) : List Defect :=
  (repeatedNames [] [] (c.members.map Member.name)).map fun name => ⟨.repeatedMember name, c.name⟩

/-! ## The generator -/

/-- A computation that keeps a log and may fail. -/
abbrev Logged (α : Type) := ExceptT Failure (StateM (List String)) α

/-- Adds a line to the log. -/
def Logged.say (line : String) : Logged Unit :=
  modify fun log => log ++ [line]

/-- What the source text is asked in: one of the languages, or something under another name, for which
C# is given. -/
inductive Target where
  | language (language : Language)
  | other (name : String)
  deriving DecidableEq, Repr

namespace Target

/-- The target of a name. -/
def ofName (name : String) : Target :=
  if name = Language.csharp.name then .language .csharp
  else if name = Language.typescript.name then .language .typescript
  else .other name

/-- The name of a target. -/
def name : Target → String
  | .language l => l.name
  | .other name => name

/-- The language that is written. -/
def written : Target → Language
  | .language l => l
  | .other _ => .csharp

end Target

/-- The namespace of a generated class. -/
def defaultNamespace : String := "Generated.Apis"

/-- The decorators to run, in order, and how to go about it. -/
structure Generator where
  decorators : List Decorator := [.objectToJson {}]
  checkMemberNames : Bool := true
  verbose : Bool := false

/-- The namespace to put the class into, with its imports, and how to emit it. -/
structure SourceOptions where
  target : Target := .language .csharp
  space : String := defaultNamespace
  imports : List String := ObjectToJson.imports
  modules : Modules := []

namespace Generator

/-- Runs decorators over a class, one after another. -/
def decorate (g : Generator) : List Decorator → ClassDecl → Logged ClassDecl
  | [], c => return c
  | d :: rest, c => do
    let decorated := d.decorate c
    if g.verbose then
      Logged.say (d.name ++ ": added " ++
        toString (decorated.members.length - c.members.length) ++ " member(s) to " ++ c.name)
    decorate g rest decorated

/-- Refuses a class in which members share names. -/
def checkNames (c : ClassDecl) : Logged Unit :=
  match (Collector.empty.addAll (repeatedMembers c)).check with
  | .ok () => pure ()
  | .error defects => throw (.rejected defects)

/-- The class of a service, with the members of every decorator. -/
def generateClass (g : Generator) (service : ServiceDescription) : Logged ClassDecl := do
  let c ← g.decorate g.decorators
    { name := serviceClassName service.name.shown, access := .everyone, isPartial := true }
  if g.checkMemberNames then
    checkNames c
  return c

/-- The class of a service in its namespace. -/
def generateNamespace (g : Generator) (service : ServiceDescription) (options : SourceOptions) :
    Logged Namespace := do
  let c ← g.generateClass service
  return { name := options.space, imports := options.imports, types := [c] }

/-- The text of a namespace in the language of the target, by an emitter of its own. -/
def emit (words : Vocabulary) (options : SourceOptions) (n : Namespace) : Except Failure String :=
  match options.target.written with
  | .csharp => ((CSharpEmitter.emitNamespace words n).run {}).1
  | .typescript =>
    ((TypeScriptEmitter.emitNamespace words n).run (.ofModules options.modules)).1

/-- The source text of the class of a service. -/
def generateSource (g : Generator) (words : Vocabulary) (service : ServiceDescription)
    (options : SourceOptions) : Logged String := do
  let n ← g.generateNamespace service options
  if g.verbose then
    Logged.say ("Emitting " ++ serviceClassName service.name.shown ++ " as " ++ options.target.name)
  match emit words options n with
  | .ok text => return text
  | .error failure => throw failure

end Generator

end ServiceWriter

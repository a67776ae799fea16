import ServiceWriter.Code.Tree

/-!
# Running the code tree

What the members of a class do, read off the tree. A run has the fields of one instance and a trace of
all that the instance did to the outside: creating objects, calling methods, reading and writing
members of anything but itself. What the outside answers may depend on the whole trace, except that a
new object is always another one.

Members of the instance itself are looked up by name, whatever kind of reference names them: reading
a property runs its getter. A local variable lives in its block, a parameter in its body. Bodies may
run each other to any depth that is given; below it the run faults.
-/

set_option autoImplicit false

namespace ServiceWriter

/-! ## Values -/

/-- A value from outside the class: a constant, an object that the instance created, known by its
place in the trace, or any other object. -/
inductive Thing where
  | constant (value : Literal)
  | made (place : Nat)
  | other (token : Nat)
  deriving DecidableEq

/-- What an expression stands for. A type is the target of its static members. -/
inductive Value where
  | outside (thing : Thing)
  | self
  | type (fullName : String)
  deriving DecidableEq

/-- Whether two numbers are equal: zero has two signs, and what is not a number equals nothing. -/
def Binary64.isEqual (a b : Binary64) : Bool :=
  !a.isNan && (a == b || (a.mantissa == 0 && b.mantissa == 0))

namespace Value

/-- The constant `null`. -/
def null : Value := .outside (.constant .null)

/-- A truth value. -/
def ofBool (value : Bool) : Value := .outside (.constant (.bool value))

/-- Whether two values are equal. -/
def isEqual : Value → Value → Bool
  | .outside (.constant (.number a)), .outside (.constant (.number b)) => a.isEqual b
  | a, b => a == b

end Value

/-! ## The outside -/

/-- Something that an instance does to the outside. -/
inductive Operation where
  | create (type : String) (arguments : List Value)
  | call (target : Value) (method : String) (arguments : List Value)
  | read (target : Value) (member : String)
  | write (target : Value) (member : String) (value : Value)
  deriving DecidableEq

/-- An operation with what came of it. -/
structure Event where
  operation : Operation
  result : Thing
  deriving DecidableEq

/-- What the outside answers to an operation, after what has been done to it. -/
abbrev World := List Event → Operation → Thing

/-- What comes of an operation. A new object is known by its place in the trace. -/
def World.answer (world : World) (trace : List Event) : Operation → Thing
  | .create _ _ => .made trace.length
  | operation => world trace operation

/-! ## Runs -/

/-- Why a run cannot go on. -/
inductive Fault where
  | unbound (name : String)
  | nullTarget (member : String)
  | noMember (name : String)
  | notBoolean
  | notAssignable
  | foreign (kind : String)
  | tooDeep
  deriving DecidableEq

/-- The fields of the instance, and all that it has done. -/
structure Machine where
  fields : List (String × Value) := []
  trace : List Event := []
  deriving DecidableEq

/-- The instance after something it did to the outside. -/
def Machine.did (s : Machine) (operation : Operation) (result : Thing) : Machine :=
  { s with trace := s.trace ++ [⟨operation, result⟩] }

/-- A run that may fault. -/
abbrev Run (α : Type) := StateT Machine (Except Fault) α

/-- The parameters and the variables that a statement can name, the innermost variable first. -/
structure Frame where
  arguments : List (String × Value) := []
  locals : List (String × Value) := []

/-- What a statement leads to: it goes on with the next one, or the body returns. -/
inductive Flow where
  | goesOn (frame : Frame)
  | returns (value : Value)

/-- What can be assigned to. -/
inductive Place where
  | variable (name : String)
  | argument (name : String)
  | member (target : Value) (name : String)

/-- Gives the first entry of the name another value. -/
def setEntry (name : String) (value : Value) : List (String × Value) → List (String × Value)
  | [] => []
  | (other, old) :: rest =>
    if other = name then (name, value) :: rest else (other, old) :: setEntry name value rest

/-- The member of the class with the name, the first one if there are several. -/
def ClassDecl.member? (c : ClassDecl) (name : String) : Option Member :=
  c.members.find? fun m => m.name == name

namespace Run

/-- The value of a name. -/
def find (entries : List (String × Value)) (name : String) : Run Value :=
  match entries.lookup name with
  | some value => return value
  | none => throw (.unbound name)

/-- The entries after an assignment to a name that must be there. -/
def assign (entries : List (String × Value)) (name : String) (value : Value) :
    Run (List (String × Value)) :=
  match entries.lookup name with
  | some _ => return setEntry name value entries
  | none => throw (.unbound name)

/-- The truth value that a value is. -/
def truth : Value → Run Bool
  | .outside (.constant (.bool value)) => return value
  | _ => throw .notBoolean

section

variable (world : World) (c : ClassDecl) (invoke : Frame → List Stmt → Run Value)

/-- Does something to the outside. -/
def perform (operation : Operation) : Run Value := do
  let s : Machine ← get
  let result := world.answer s.trace operation
  set (s.did operation result)
  return .outside result

/-- Reads a member of a value. -/
def readMember (target : Value) (name : String) : Run Value :=
  match target with
  | .self => do
    match c.member? name with
    | some (.field _) => find (← get).fields name
    | some (.property p) =>
      if p.getter.isPresent then invoke {} p.getter.body else throw (.noMember name)
    | _ => throw (.noMember name)
  | .outside (.constant .null) => throw (.nullTarget name)
  | target => perform world (.read target name)

/-- Writes a member of a value. -/
def writeMember (target : Value) (name : String) (value : Value) : Run Unit :=
  match target with
  | .self => do
    match c.member? name with
    | some (.field _) =>
      let s ← get
      set { s with fields := ← assign s.fields name value }
    | some (.property p) =>
      if p.setter.isPresent then
        let _ ← invoke { arguments := [("value", value)] } p.setter.body
      else
        throw (.noMember name)
    | _ => throw (.noMember name)
  | .outside (.constant .null) => throw (.nullTarget name)
  | target => do
    let _ ← perform world (.write target name value)

/-- Calls a method of a value. -/
def callMember (target : Value) (name : String) (arguments : List Value) : Run Value :=
  match target with
  | .self =>
    match c.member? name with
    | some (.method m) =>
      if m.parameters.length = arguments.length then
        invoke { arguments := (m.parameters.map Parameter.name).zip arguments } m.body
      else
        throw (.noMember name)
    | _ => throw (.noMember name)
  | .outside (.constant .null) => throw (.nullTarget name)
  | target => perform world (.call target name arguments)

mutual

/-- Evaluates an expression, from left to right. -/
@[simp] def evaluate (frame : Frame) : Expr → Run Value
  | .literal value => return .outside (.constant value)
  | .this => return .self
  | .variableRef name => find frame.locals name
  | .argumentRef name => find frame.arguments name
  | .typeName type => return .type type.name
  | .field target name | .property target name => do
    readMember world c invoke (← evaluate frame target) name
  | .create type arguments => do
    perform world (.create type.name (← evaluateAll frame arguments))
  | .invoke target method arguments => do
    let target ← evaluate frame target
    callMember world c invoke target method (← evaluateAll frame arguments)
  | .binary left operator right => do
    let first ← evaluate frame left
    match operator with
    | .identityEquality | .valueEquality =>
      return .ofBool (first.isEqual (← evaluate frame right))
    | .identityInequality => return .ofBool (!first.isEqual (← evaluate frame right))
    | .booleanAnd =>
      if ← truth first then return .ofBool (← truth (← evaluate frame right))
      else return .ofBool false
    | .booleanOr =>
      if ← truth first then return .ofBool true
      else return .ofBool (← truth (← evaluate frame right))
  | .foreign node => throw (.foreign node.kind)

/-- Evaluates the expressions of a list, one after another. -/
@[simp] def evaluateAll (frame : Frame) : List Expr → Run (List Value)
  | [] => return []
  | e :: rest => do
    let value ← evaluate frame e
    return value :: (← evaluateAll frame rest)

end

/-- Evaluates an expression that may be absent, and then is `null`. -/
def evaluateOption (frame : Frame) : Option Expr → Run Value
  | none => return .null
  | some e => evaluate world c invoke frame e

/-- What the left side of an assignment stands for. -/
def placeOf (frame : Frame) : Expr → Run Place
  | .variableRef name => return .variable name
  | .argumentRef name => return .argument name
  | .field target name | .property target name =>
    return .member (← evaluate world c invoke frame target) name
  | _ => throw .notAssignable

/-- Assigns a value to a place. -/
def store (frame : Frame) (place : Place) (value : Value) : Run Frame :=
  match place with
  | .variable name => return { frame with locals := ← assign frame.locals name value }
  | .argument name => return { frame with arguments := ← assign frame.arguments name value }
  | .member target name => do
    writeMember world c invoke target name value
    return frame

/-- What a block leads to for the statements after it: its variables are forgotten. -/
def leave (outer : Frame) : Flow → Flow
  | .goesOn inner =>
    .goesOn { inner with locals := inner.locals.drop (inner.locals.length - outer.locals.length) }
  | .returns value => .returns value

mutual

/-- Executes a statement. -/
@[simp] def execute (frame : Frame) : Stmt → Run Flow
  | .declare _ name initializer => do
    let value ← evaluateOption world c invoke frame initializer
    return .goesOn { frame with locals := (name, value) :: frame.locals }
  | .assign left right => do
    let place ← placeOf world c invoke frame left
    let value ← evaluate world c invoke frame right
    return .goesOn (← store world c invoke frame place value)
  | .condition test whenTrue whenFalse => do
    if ← truth (← evaluate world c invoke frame test) then
      return leave frame (← executeAll frame whenTrue)
    else
      return leave frame (← executeAll frame whenFalse)
  | .returns value => return .returns (← evaluateOption world c invoke frame value)
  | .expression value => do
    let _ ← evaluate world c invoke frame value
    return .goesOn frame
  | .foreign node => throw (.foreign node.kind)

/-- Executes the statements of a block until one returns. -/
@[simp] def executeAll (frame : Frame) : List Stmt → Run Flow
  | [] => return .goesOn frame
  | s :: rest => do
    match ← execute frame s with
    | .goesOn frame => executeAll frame rest
    | .returns value => return .returns value

end

end

/-- Runs a body. Bodies run each other down to the depth given. -/
def runBody (world : World) (c : ClassDecl) : Nat → Frame → List Stmt → Run Value
  | 0, _, _ => throw .tooDeep
  | depth + 1, frame, body => do
    match ← executeAll world c (runBody world c depth) frame body with
    | .returns value => return value
    | .goesOn _ => return .null

/-! ## Instances -/

section

variable (world : World) (c : ClassDecl) (depth : Nat)

/-- Gives the fields among the members their initial values, one after another. -/
def initialise : List Member → Run Unit
  | [] => return
  | .field f :: rest => do
    let value ← evaluateOption world c (runBody world c depth) {} f.initializer
    modify fun s => { s with fields := s.fields ++ [(f.name, value)] }
    initialise rest
  | _ :: rest => initialise rest

/-- A call of a method with one argument: what it returned, and what it did to the outside. -/
structure Call where
  argument : Value
  result : Value
  events : List Event

/-- Calls a method of the instance with one argument. -/
def call (method : String) (argument : Value) : Run Call := do
  let before := (← get).trace.length
  let result ← callMember world c (runBody world c depth) .self method [argument]
  return ⟨argument, result, (← get).trace.drop before⟩

/-- Calls a method of the instance with each of the arguments, one after another. -/
def callEach (method : String) : List Value → Run (List Call)
  | [] => return []
  | argument :: rest => do
    let first ← call world c depth method argument
    return first :: (← callEach method rest)

/-- Calls a method of a fresh instance with each of the arguments. -/
def useFresh (method : String) (arguments : List Value) : Run (List Call) := do
  initialise world c depth c.members
  callEach world c depth method arguments

end

end Run

end ServiceWriter

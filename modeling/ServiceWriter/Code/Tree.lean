import ServiceWriter.Number.Binary64
import ServiceWriter.Json.Value

/-!
# The code tree

Classes as data, free of any target language: types by their full names, expressions, statements,
members, classes and namespaces. Both emitters read this tree.

A tree may come from outside with nodes of a kind that does not belong where they stand. Expressions,
statements and members each have a constructor for those, so that an emitter can name the kind it
cannot emit.
-/

set_option autoImplicit false

namespace ServiceWriter

/-! ## Types and values -/

/-- A type by its full name, such as `System.IO.TextWriter`, with its type arguments. -/
inductive TypeRef where
  | mk (name : String) (arguments : List TypeRef)
  deriving Inhabited

namespace TypeRef

/-- The full name, without the type arguments. -/
def name : TypeRef → String
  | .mk name _ => name

/-- The type arguments. -/
def arguments : TypeRef → List TypeRef
  | .mk _ arguments => arguments

/-- A type without type arguments. -/
def plain (name : String) : TypeRef := .mk name []

end TypeRef

/-- A constant. -/
inductive Literal where
  | null
  | bool (value : Bool)
  | text (value : String)
  | number (value : Binary64)
  deriving DecidableEq

/-- A binary operator. The two equalities are one in either target language. -/
inductive Operator where
  | identityEquality
  | identityInequality
  | valueEquality
  | booleanAnd
  | booleanOr
  deriving DecidableEq, Repr

/-- A node whose kind is none of this library, or does not belong where it stands: the kind and the
rest of the node as data. -/
structure Foreign where
  kind : String
  fields : List (String × Json)
  deriving Inhabited

/-! ## Expressions -/

/-- An expression. A member is reached through its target as a field, a property or a method; a
variable is local, an argument belongs to the method. -/
inductive Expr where
  | literal (value : Literal)
  | this
  | field (target : Expr) (name : String)
  | property (target : Expr) (name : String)
  | variableRef (name : String)
  | argumentRef (name : String)
  | typeName (type : TypeRef)
  | create (type : TypeRef) (arguments : List Expr)
  | invoke (target : Expr) (method : String) (arguments : List Expr)
  | binary (left : Expr) (operator : Operator) (right : Expr)
  | foreign (node : Foreign)
  deriving Inhabited

namespace Expr

/-- An application of a binary operator. -/
def isBinary : Expr → Bool
  | .binary .. => true
  | _ => false

/-- The constant `null`. -/
def isNull : Expr → Bool
  | .literal .null => true
  | _ => false

end Expr

/-! ## Statements -/

/-- A statement. An absent branch of a condition is an empty list. -/
inductive Stmt where
  | declare (type : TypeRef) (name : String) (initializer : Option Expr)
  | assign (left right : Expr)
  | condition (test : Expr) (whenTrue whenFalse : List Stmt)
  | returns (value : Option Expr)
  | expression (value : Expr)
  | foreign (node : Foreign)
  deriving Inhabited

/-! ## Members -/

/-- Who may use a member or a class. -/
inductive Access where
  | everyone
  | owner
  | derived
  | assembly
  deriving DecidableEq, Repr

/-- The word for an access in a class declaration. -/
def Access.keyword : Access → String
  | .everyone => "public"
  | .owner => "private"
  | .derived => "protected"
  | .assembly => "internal"

/-- A field. -/
structure Field where
  name : String
  type : TypeRef
  access : Access := .owner
  isStatic : Bool := false
  initializer : Option Expr := none

/-- The getter or the setter of a property. An absent accessor may still hold statements, which are
then not part of the class. -/
structure Accessor where
  isPresent : Bool := false
  body : List Stmt := []

/-- A property. -/
structure Property where
  name : String
  type : TypeRef
  access : Access := .owner
  getter : Accessor := {}
  setter : Accessor := {}

/-- A parameter of a method. -/
structure Parameter where
  name : String
  type : TypeRef
  deriving Inhabited

/-- A method. -/
structure Method where
  name : String
  returnType : TypeRef
  access : Access := .owner
  isStatic : Bool := false
  parameters : List Parameter := []
  body : List Stmt := []

/-- A member of a class. -/
inductive Member where
  | field (field : Field)
  | property (property : Property)
  | method (method : Method)
  | foreign (name : String) (node : Foreign)
  deriving Inhabited

/-- The name of a member, of whatever kind. -/
def Member.name : Member → String
  | .field f => f.name
  | .property p => p.name
  | .method m => m.name
  | .foreign name _ => name

/-! ## Classes and namespaces -/

/-- A class. -/
structure ClassDecl where
  name : String
  access : Access := .everyone
  isPartial : Bool := false
  members : List Member := []
  deriving Inhabited

/-- A namespace with the namespaces it imports. The empty name stands for no namespace at all. -/
structure Namespace where
  name : String
  imports : List String := []
  types : List ClassDecl := []
  deriving Inhabited

end ServiceWriter

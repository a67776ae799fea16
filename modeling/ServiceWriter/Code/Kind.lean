import ServiceWriter.Code.Tree

/-!
# Kinds of nodes

The names under which the kinds of nodes are known outside the library, and the names of the
operators.
-/

set_option autoImplicit false

namespace ServiceWriter

/-- The names of all kinds of nodes. -/
def nodeKinds : List String := [
  "Namespace", "TypeDeclaration", "MemberField", "MemberProperty", "MemberMethod",
  "ParameterDeclaration", "TypeReference", "PrimitiveExpression", "ThisReference",
  "FieldReference", "PropertyReference", "VariableReference", "ArgumentReference",
  "TypeReferenceExpression", "ObjectCreate", "MethodInvoke", "BinaryOperator",
  "VariableDeclaration", "Assign", "Condition", "Return", "ExpressionStatement"]

/-- The kind of an expression. -/
def Expr.kind : Expr → String
  | .literal _ => "PrimitiveExpression"
  | .this => "ThisReference"
  | .field .. => "FieldReference"
  | .property .. => "PropertyReference"
  | .variableRef _ => "VariableReference"
  | .argumentRef _ => "ArgumentReference"
  | .typeName _ => "TypeReferenceExpression"
  | .create .. => "ObjectCreate"
  | .invoke .. => "MethodInvoke"
  | .binary .. => "BinaryOperator"
  | .foreign node => node.kind

/-- The kind of a statement. -/
def Stmt.kind : Stmt → String
  | .declare .. => "VariableDeclaration"
  | .assign .. => "Assign"
  | .condition .. => "Condition"
  | .returns _ => "Return"
  | .expression _ => "ExpressionStatement"
  | .foreign node => node.kind

/-- The kind of a member. -/
def Member.kind : Member → String
  | .field _ => "MemberField"
  | .property _ => "MemberProperty"
  | .method _ => "MemberMethod"
  | .foreign _ node => node.kind

/-- A member in a list: its kind and its name. -/
def Member.summary (m : Member) : String := m.kind ++ " " ++ m.name

/-- All operators. -/
def Operator.all : List Operator :=
  [.identityEquality, .identityInequality, .valueEquality, .booleanAnd, .booleanOr]

/-- The name of an operator. -/
def Operator.name : Operator → String
  | .identityEquality => "IdentityEquality"
  | .identityInequality => "IdentityInequality"
  | .valueEquality => "ValueEquality"
  | .booleanAnd => "BooleanAnd"
  | .booleanOr => "BooleanOr"

end ServiceWriter

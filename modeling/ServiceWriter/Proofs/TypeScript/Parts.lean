import ServiceWriter.Proofs.Walk.Parts
import ServiceWriter.Proofs.Walk.TypeScript
import Mathlib.Data.List.Basic

/-!
# Parts of TypeScript syntax

The terms, the commands and the types of a class that has been emitted, beside the expressions, the
statements and the types of the class in the tree. The two agree part by part: what is taken from each
term, and nothing from the parentheses and member accesses that an emission adds, is what is taken
from the term of each expression (`flatMap_parts_termOf`), and the same goes for commands and
statements (`flatMap_commandParts_blockOf`).
-/

set_option autoImplicit false

namespace ServiceWriter.TypeScript

variable {α : Type}

/-! ## Terms -/

mutual

/-- A term and all terms inside it, the outermost first. -/
def Term.parts : Term → List Term
  | .access target name => .access target name :: target.parts
  | .call callee arguments => .call callee arguments :: (callee.parts ++ termParts arguments)
  | .create name types arguments => .create name types arguments :: termParts arguments
  | .binary left sign right => .binary left sign right :: (left.parts ++ right.parts)
  | .parenthesised inner => .parenthesised inner :: inner.parts
  | .word keyword => [.word keyword]
  | .text value => [.text value]
  | .number digits => [.number digits]
  | .negated digits => [.negated digits]
  | .name name => [.name name]

/-- The parts of a list of terms. -/
def termParts : List Term → List Term
  | [] => []
  | term :: rest => term.parts ++ termParts rest

end

/-- Nothing is taken from parentheses and member accesses, which may stand for no expression. -/
structure SkipsAdded (f : Term → List α) : Prop where
  parenthesised : ∀ inner, f (.parenthesised inner) = []
  access : ∀ target name, f (.access target name) = []

theorem flatMap_parts_operand {f : Term → List α} (skips : SkipsAdded f) (e : Expr) (term : Term) :
    (operand e term).parts.flatMap f = term.parts.flatMap f := by
  unfold operand
  split
  · rw [Term.parts, List.flatMap_cons, skips.parenthesised, List.nil_append]
  · rfl

theorem parts_literalTerm (value : Literal) : (literalTerm value).parts = [literalTerm value] := by
  cases value with
  | number value =>
    rw [literalTerm]
    split
    · rfl
    · split <;> rfl
  | null | bool _ | text _ => rfl

mutual

/-- **What is taken from the parts of a term** is taken from the terms of the parts of the
expression. -/
theorem flatMap_parts_termOf {f : Term → List α} (skips : SkipsAdded f) : ∀ e : Expr,
    (termOf e).parts.flatMap f = e.parts.flatMap fun part => f (termOf part)
  | .literal value => by
    rw [termOf, parts_literalTerm, Expr.parts, List.flatMap_singleton, List.flatMap_singleton, termOf]
  | .this | .variableRef _ | .argumentRef _ | .typeName _ | .foreign _ => by
    simp only [termOf, Term.parts, Expr.parts, List.flatMap_singleton]
  | .field target name | .property target name => by
    rw [Expr.parts, List.flatMap_cons, ← flatMap_parts_termOf skips target]
    simp only [termOf, Term.parts, List.flatMap_cons]
  | .create type arguments => by
    rw [Expr.parts, List.flatMap_cons, ← flatMap_termParts_termsOf skips arguments]
    simp only [termOf, Term.parts, List.flatMap_cons]
  | .invoke target method arguments => by
    rw [Expr.parts, List.flatMap_cons, List.flatMap_append, ← flatMap_parts_termOf skips target,
      ← flatMap_termParts_termsOf skips arguments]
    simp only [termOf, Term.parts, List.flatMap_cons, List.flatMap_append, skips.access,
      List.nil_append]
  | .binary left operator right => by
    rw [Expr.parts, List.flatMap_cons, List.flatMap_append, ← flatMap_parts_termOf skips left,
      ← flatMap_parts_termOf skips right]
    simp only [termOf, Term.parts, List.flatMap_cons, List.flatMap_append,
      flatMap_parts_operand skips]

theorem flatMap_termParts_termsOf {f : Term → List α} (skips : SkipsAdded f) : ∀ es : List Expr,
    (termParts (termsOf es)).flatMap f = (exprParts es).flatMap fun part => f (termOf part)
  | [] => rfl
  | e :: rest => by
    rw [termsOf, termParts, exprParts, List.flatMap_append, List.flatMap_append,
      flatMap_parts_termOf skips e, flatMap_termParts_termsOf skips rest]

end

theorem termsOf_eq_map (es : List Expr) : termsOf es = es.map termOf := by
  induction es with
  | nil => rfl
  | cons e rest ih => rw [termsOf, List.map_cons, ih]

theorem nodesOf_eq_map (types : List TypeRef) : nodesOf types = types.map nodeOf := by
  induction types with
  | nil => rfl
  | cons type rest ih => rw [nodesOf, List.map_cons, ih]

/-! ## Commands -/

mutual

/-- A command and all commands in its branches, the outermost first. -/
def Command.parts : Command → List Command
  | .condition test whenTrue whenFalse =>
    .condition test whenTrue whenFalse :: (commandParts whenTrue ++ commandParts whenFalse)
  | .declare name type value => [.declare name type value]
  | .assign left right => [.assign left right]
  | .returns value => [.returns value]
  | .expression value => [.expression value]

/-- The parts of a list of commands. -/
def commandParts : List Command → List Command
  | [] => []
  | command :: rest => command.parts ++ commandParts rest

end

theorem commandParts_append (commands commands' : List Command) :
    commandParts (commands ++ commands') = commandParts commands ++ commandParts commands' := by
  induction commands with
  | nil => rfl
  | cons command rest ih =>
    rw [List.cons_append, commandParts, commandParts, ih, List.append_assoc]

theorem commandParts_singleton (command : Command) : commandParts [command] = command.parts := by
  rw [commandParts, commandParts, List.append_nil]

/-- The terms that a command itself is made of. -/
def Command.ownTerms : Command → List Term
  | .declare _ _ value => value.toList
  | .assign left right => [left, right]
  | .condition test _ _ => [test]
  | .returns value => value.toList
  | .expression value => [value]

/-- The type that a command gives to a variable. -/
def Command.ownTypes : Command → List TypeNode
  | .declare _ type _ => [type]
  | _ => []

theorem toList_map_termOf (value : Option Expr) :
    (value.map termOf).toList = value.toList.map termOf := by
  cases value <;> rfl

theorem flatMap_ownTerms_commandsOf (s : Stmt) :
    (commandsOf s).flatMap Command.ownTerms = s.ownExpressions.map termOf := by
  cases s with
  | foreign node => rfl
  | _ =>
    rw [commandsOf, List.flatMap_singleton]
    first | exact toList_map_termOf _ | rfl

theorem flatMap_ownTypes_commandsOf (s : Stmt) :
    (commandsOf s).flatMap Command.ownTypes = s.ownTypes.map nodeOf := by
  cases s <;> rfl

section

variable {f : Command → List α} {g : Stmt → List α}

mutual

theorem flatMap_commandParts_commandsOf (agree : ∀ s, (commandsOf s).flatMap f = g s) : ∀ s : Stmt,
    (commandParts (commandsOf s)).flatMap f = s.parts.flatMap g
  | .declare _ _ _ | .assign _ _ | .returns _ | .expression _ => by
    rw [Stmt.parts, List.flatMap_singleton, ← agree]
    rfl
  | .foreign _ => by
    rw [Stmt.parts, List.flatMap_singleton, ← agree]
    rfl
  | .condition test whenTrue whenFalse => by
    rw [Stmt.parts, List.flatMap_cons, List.flatMap_append, ← agree,
      ← flatMap_commandParts_blockOf agree whenTrue, ← flatMap_commandParts_blockOf agree whenFalse]
    simp only [commandsOf, commandParts_singleton, Command.parts, List.flatMap_cons,
      List.flatMap_append, List.flatMap_nil, List.append_nil]

/-- **What is taken from the commands of a body**, at whatever depth, is taken from its
statements. -/
theorem flatMap_commandParts_blockOf (agree : ∀ s, (commandsOf s).flatMap f = g s) :
    ∀ body : List Stmt, (commandParts (blockOf body)).flatMap f = (stmtParts body).flatMap g
  | [] => rfl
  | s :: rest => by
    rw [blockOf, commandParts_append, stmtParts, List.flatMap_append, List.flatMap_append,
      flatMap_commandParts_commandsOf agree s, flatMap_commandParts_blockOf agree rest]

end

end

/-! ## Elements and classes -/

/-- The commands of an element. -/
def Element.commands : Element → List Command
  | .getter _ _ body | .setter _ _ body | .method _ _ _ _ _ body => body
  | .field .. => []

/-- The value that an element starts out with. -/
def Element.value : Element → Option Term
  | .field _ _ _ value => value
  | _ => none

/-- The terms of an element, at whatever depth. -/
def Element.terms (element : Element) : List Term :=
  termParts (element.value.toList ++ (commandParts element.commands).flatMap Command.ownTerms)

/-- The terms of a class, at whatever depth. -/
def ClassNode.terms (node : ClassNode) : List Term := node.elements.flatMap Element.terms

/-- The terms of a body are those of its expressions. -/
theorem flatMap_ownTerms_blockOf (body : List Stmt) :
    (commandParts (blockOf body)).flatMap Command.ownTerms =
      termsOf ((stmtParts body).flatMap Stmt.ownExpressions) := by
  rw [flatMap_commandParts_blockOf flatMap_ownTerms_commandsOf, termsOf_eq_map, List.map_flatMap]

section

variable {f : Term → List α}

/-- An element without a value of its own. -/
theorem flatMap_terms_of_body (skips : SkipsAdded f) {element : Element} {body : List Stmt}
    (noValue : element.value = none) (commands : element.commands = blockOf body) :
    element.terms.flatMap f =
      (exprParts ((stmtParts body).flatMap Stmt.ownExpressions)).flatMap fun part =>
        f (termOf part) := by
  rw [Element.terms, noValue, commands, flatMap_ownTerms_blockOf]
  exact flatMap_termParts_termsOf skips _

theorem flatMap_terms_accessorElements (skips : SkipsAdded f) (p : Property) (a : Accessor)
    {element : Access → Binding → List Command → Element}
    (noValue : ∀ access binding body, (element access binding body).value = none)
    (commands : ∀ access binding body, (element access binding body).commands = body) :
    (accessorElements p element a).flatMap (fun element => element.terms.flatMap f) =
      (exprParts ((stmtParts a.statements).flatMap Stmt.ownExpressions)).flatMap fun part =>
        f (termOf part) := by
  unfold accessorElements Accessor.statements
  split
  · rw [List.flatMap_singleton]
    exact flatMap_terms_of_body skips (noValue _ _ _) (commands _ _ _)
  · rfl

/-- **What is taken from the terms of a member** is taken from its expressions. -/
theorem flatMap_terms_elementsOf (skips : SkipsAdded f) (m : Member) :
    (elementsOf m).flatMap (fun element => element.terms.flatMap f) =
      m.expressions.flatMap fun part => f (termOf part) := by
  cases m with
  | field p =>
    rw [elementsOf, fieldElements, List.flatMap_singleton, Element.terms, Element.value,
      toList_map_termOf, ← termsOf_eq_map, Element.commands]
    simp only [commandParts, List.flatMap_nil, List.append_nil]
    rw [flatMap_termParts_termsOf skips, Member.expressions, Member.statements, Member.initializer]
    simp only [stmtParts, List.flatMap_nil, List.append_nil]
  | property p =>
    rw [elementsOf, propertyElements, List.flatMap_append,
      flatMap_terms_accessorElements skips p p.getter (fun _ _ _ => rfl) (fun _ _ _ => rfl),
      flatMap_terms_accessorElements skips p p.setter (fun _ _ _ => rfl) (fun _ _ _ => rfl),
      ← List.flatMap_append, ← exprParts_append, ← List.flatMap_append, ← stmtParts_append]
    rfl
  | method m =>
    rw [elementsOf, methodElements, List.flatMap_singleton]
    exact flatMap_terms_of_body skips rfl rfl
  | foreign name node => rfl

/-- **What is taken from the terms of a class** is taken from its expressions. -/
theorem flatMap_terms_classOf (skips : SkipsAdded f) (c : ClassDecl) :
    (classOf c).terms.flatMap f = c.expressions.flatMap fun part => f (termOf part) := by
  rw [ClassNode.terms, classOf, List.flatMap_assoc, List.flatMap_assoc, ClassDecl.expressions,
    List.flatMap_assoc]
  exact List.flatMap_congr fun m _ => flatMap_terms_elementsOf skips m

end

mutual

/-- The classes in a declaration. -/
def Declaration.classes : Declaration → List ClassNode
  | .classNode node => [node]
  | .space _ body => declaredClasses body

/-- The classes that are declared. -/
def declaredClasses : List Declaration → List ClassNode
  | [] => []
  | d :: rest => d.classes ++ declaredClasses rest

end

theorem declaredClasses_classesOf (types : List ClassDecl) :
    declaredClasses (classesOf types) = types.map classOf := by
  induction types with
  | nil => rfl
  | cons c rest ih => exact congrArg (classOf c :: ·) ih

theorem declaredClasses_nested (body : List Declaration) (parts : List String) :
    declaredClasses (nested parts body) = declaredClasses body := by
  induction parts with
  | nil => rfl
  | cons part rest ih =>
    rw [← ih]
    exact List.append_nil _

/-- A namespace declares its classes. -/
theorem declaredClasses_declarationsOf (n : Namespace) :
    declaredClasses (declarationsOf n) = n.types.map classOf := by
  unfold declarationsOf
  split
  · exact declaredClasses_classesOf n.types
  · rw [declaredClasses_nested, declaredClasses_classesOf]

end ServiceWriter.TypeScript

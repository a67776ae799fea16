import ServiceWriter.Proofs.CSharp.Normal
import ServiceWriter.Proofs.Text.Pieces
import ServiceWriter.Proofs.Walk.Clean
import ServiceWriter.Proofs.Walk.Parts

/-!
# The pieces of C# rows

The rows of a class are made of words and signs of the language, names that were checked, names of
types as they are printed, and the constants of the class. What holds of all these (`Admits`) holds
of every piece of every row (`Admits.classRows`). Nothing is said here about what is asked of a
piece: it may be its form, or the characters in it.
-/

set_option autoImplicit false

namespace ServiceWriter.CSharp

open Text

/-! ## Types of a tree -/

/-- The names of all types that an expression that may be absent refers to. -/
def optionTypeNames : Option Expr → List String
  | none => []
  | some e => namesOfTypes e

mutual

/-- The names of all types in a statement. -/
def stmtTypeNames : Stmt → List String
  | .declare type _ value => typeNames type ++ optionTypeNames value
  | .assign left right => namesOfTypes left ++ namesOfTypes right
  | .condition test whenTrue whenFalse =>
    namesOfTypes test ++ (stmtsTypeNames whenTrue ++ stmtsTypeNames whenFalse)
  | .returns value => optionTypeNames value
  | .expression value => namesOfTypes value
  | .foreign _ => []

/-- The names of all types in a list of statements. -/
def stmtsTypeNames : List Stmt → List String
  | [] => []
  | s :: rest => stmtTypeNames s ++ stmtsTypeNames rest

end

/-- The names of all types in an accessor, none if the property does not have it. -/
def accessorTypeNames (a : Accessor) : List String :=
  if a.isPresent then stmtsTypeNames a.body else []

/-- The names of all types in a member. -/
def memberTypeNames : Member → List String
  | .field f => typeNames f.type ++ optionTypeNames f.initializer
  | .property p => typeNames p.type ++ (accessorTypeNames p.getter ++ accessorTypeNames p.setter)
  | .method m =>
    m.parameters.flatMap (fun p => typeNames p.type) ++
      (typeNames m.returnType ++ stmtsTypeNames m.body)
  | .foreign _ _ => []

/-- The names of all types in a namespace, arguments included. -/
def namespaceTypeNames (n : Namespace) : List String :=
  n.types.flatMap fun c => c.members.flatMap memberTypeNames

/-! ## What may stand in a row -/

/-- The words and signs that are the same in the rows of every class. -/
def rowSigns : List String := [
  " ", ".", ", ", ";", "(", ")", "<", ">", "\x7b", "\x7d", " = ", "==", "!=", "&&", "||", "this",
  "new ", "if (", "else", "return;", "return ", "get", "set", " class ", " partial", " static",
  "public", "private", "protected", "internal"]

/-- The rows of trees with these types and constants, written under the imports, are made of pieces
that are as `P` says. -/
structure Admits (words : ReservedWords) (imports types : List String) (constants : Literal → Prop)
    (P : String → Prop) : Prop where
  sign : ∀ text ∈ rowSigns, P text
  /-- A name that was checked. -/
  name : ∀ name, IsFree words .csharp name → P name
  /-- The name of a type as it is printed. -/
  type : ∀ name ∈ types, P (csharpTypeName imports name)
  constant : ∀ value, constants value → P (literalText value)

/-- The rows are made of pieces that are as `P` says. -/
def RowsMade (P : String → Prop) (rows : List Row) : Prop := ∀ r ∈ rows, MadeOf P r.text

namespace RowsMade

variable {P : String → Prop} {rows rows' : List Row}

theorem nil : RowsMade P [] := fun _ member => nomatch member

theorem cons {text : String} (first : MadeOf P text) (rest : RowsMade P rows) :
    RowsMade P (row text :: rows) :=
  List.forall_mem_cons.mpr ⟨first, rest⟩

theorem append (first : RowsMade P rows) (second : RowsMade P rows') : RowsMade P (rows ++ rows') :=
  List.forall_mem_append.mpr ⟨first, second⟩

theorem single {text : String} (made : MadeOf P text) : RowsMade P [row text] :=
  cons made nil

theorem braced (opening : P "\x7b") (closing : P "\x7d") (made : RowsMade P rows) :
    RowsMade P (bracedRows rows) := by
  refine cons (.piece opening) (append ?_ (single (.piece closing)))
  intro r member
  obtain ⟨inner, listed, rfl⟩ := List.mem_map.mp member
  exact made inner listed

theorem separated {groups : List (List Row)} (each : ∀ rows ∈ groups, RowsMade P rows) :
    RowsMade P (separatedRows groups) := by
  induction groups with
  | nil => exact nil
  | cons first rest ih =>
    rw [List.forall_mem_cons] at each
    cases rest with
    | nil => exact each.1
    | cons second rest => exact each.1.append (cons .empty (ih each.2))

end RowsMade

section

variable {imports : List String} {P : String → Prop}

mutual

/-- A type is made of the names in it, as they are printed, and of the signs around arguments. -/
theorem madeOf_typeText (opening : P "<") (comma : P ", ") (closing : P ">") :
    ∀ type : TypeRef, (∀ name ∈ typeNames type, P (csharpTypeName imports name)) →
    MadeOf P (typeText imports type)
  | .mk name arguments => by
    intro named
    rw [typeNames, List.forall_mem_cons] at named
    rw [typeText]
    refine (MadeOf.piece named.1).append ?_
    split
    · exact .empty
    · have inside : MadeOf P (", ".intercalate (typeTexts imports arguments)) :=
        .intercalate (.piece comma) (madeOf_typeTexts opening comma closing arguments named.2)
      exact ((MadeOf.piece opening).append inside).append (.piece closing)

theorem madeOf_typeTexts (opening : P "<") (comma : P ", ") (closing : P ">") :
    ∀ list : List TypeRef, (∀ name ∈ typesNames list, P (csharpTypeName imports name)) →
    ∀ text ∈ typeTexts imports list, MadeOf P text
  | [] => by
    intro _ text member
    cases member
  | type :: rest => by
    intro named
    rw [typesNames, List.forall_mem_append] at named
    rw [typeTexts, List.forall_mem_cons]
    exact ⟨madeOf_typeText opening comma closing type named.1,
      madeOf_typeTexts opening comma closing rest named.2⟩

end

end

namespace Admits

variable {words : ReservedWords} {imports types : List String} {constants : Literal → Prop}
  {P : String → Prop}

theorem fixed (admits : Admits words imports types constants P)
    {text : String} (listed : text ∈ rowSigns := by decide) : MadeOf P text :=
  .piece (admits.sign text listed)

theorem commaSeparated (admits : Admits words imports types constants P)
    {texts : List String} (each : ∀ text ∈ texts, MadeOf P text) :
    MadeOf P (", ".intercalate texts) :=
  .intercalate admits.fixed each

/-- A name at which nothing was found wrong. -/
theorem checked (admits : Admits words imports types constants P)
    {name : String} (clean : nameCause words .csharp name = none) : MadeOf P name :=
  .piece (admits.name name (nameCause_eq_none_iff.mp clean))

theorem braced (admits : Admits words imports types constants P)
    {rows : List Row} (made : RowsMade P rows) : RowsMade P (bracedRows rows) :=
  made.braced (admits.sign _ (by decide)) (admits.sign _ (by decide))

/-! ## Types and expressions -/

theorem typeText (admits : Admits words imports types constants P) (type : TypeRef)
    (used : ∀ name ∈ typeNames type, name ∈ types) : MadeOf P (CSharp.typeText imports type) :=
  madeOf_typeText (admits.sign _ (by decide)) (admits.sign _ (by decide))
    (admits.sign _ (by decide)) type fun name named => admits.type name (used name named)

theorem operand (admits : Admits words imports types constants P)
    (e : Expr) {text : String} (made : MadeOf P text) :
    MadeOf P (CSharp.operand e text) := by
  unfold CSharp.operand
  split
  · exact (admits.fixed.append made).append admits.fixed
  · exact made

theorem operatorSign (admits : Admits words imports types constants P)
    (operator : Operator) : MadeOf P (CSharp.operatorSign operator) := by
  cases operator <;> exact admits.fixed

mutual

theorem expressionText (admits : Admits words imports types constants P) :
    ∀ e : Expr, (∀ site ∈ e.sites, causeAt words site = none) →
    (∀ name ∈ namesOfTypes e, name ∈ types) →
    (∀ value, .literal value ∈ e.parts → constants value) →
    MadeOf P (CSharp.expressionText imports e)
  | .literal value => by
    intro _ _ held
    rw [Expr.parts] at held
    rw [CSharp.expressionText]
    exact .piece (admits.constant value (held value (List.mem_singleton_self _)))
  | .this => by
    intro _ _ _
    rw [CSharp.expressionText]
    exact admits.fixed
  | .field target name | .property target name => by
    intro clean used held
    rw [Expr.sites, List.forall_mem_cons] at clean
    rw [namesOfTypes] at used
    rw [Expr.parts] at held
    rw [CSharp.expressionText]
    have reached : MadeOf P (CSharp.expressionText imports target) :=
      expressionText admits target clean.2 used fun value inside =>
        held value (List.mem_cons_of_mem _ inside)
    exact (reached.append admits.fixed).append (admits.checked clean.1)
  | .variableRef name | .argumentRef name => by
    intro clean _ _
    rw [Expr.sites, List.forall_mem_singleton] at clean
    rw [CSharp.expressionText]
    exact admits.checked clean
  | .typeName type => by
    intro _ used _
    rw [namesOfTypes] at used
    rw [CSharp.expressionText]
    exact admits.typeText type used
  | .create type arguments => by
    intro clean used held
    rw [Expr.sites, List.forall_mem_cons, List.forall_mem_append] at clean
    rw [namesOfTypes, List.forall_mem_append] at used
    rw [Expr.parts] at held
    rw [CSharp.expressionText]
    have inside := admits.commaSeparated (expressionTexts admits arguments clean.2.2 used.2
      fun value inside => held value (List.mem_cons_of_mem _ inside))
    exact (((admits.fixed.append (admits.typeText type used.1)).append admits.fixed).append
      inside).append admits.fixed
  | .invoke target method arguments => by
    intro clean used held
    rw [Expr.sites, List.forall_mem_cons, List.forall_mem_append] at clean
    rw [namesOfTypes, List.forall_mem_append] at used
    rw [Expr.parts] at held
    rw [CSharp.expressionText]
    have reached : MadeOf P (CSharp.expressionText imports target) :=
      expressionText admits target clean.2.1 used.1 fun value inside =>
        held value (List.mem_cons_of_mem _ (List.mem_append_left _ inside))
    have inside := admits.commaSeparated (expressionTexts admits arguments clean.2.2 used.2
      fun value inside => held value (List.mem_cons_of_mem _ (List.mem_append_right _ inside)))
    exact ((((reached.append admits.fixed).append (admits.checked clean.1)).append
      admits.fixed).append inside).append admits.fixed
  | .binary left operator right => by
    intro clean used held
    rw [Expr.sites, List.forall_mem_append] at clean
    rw [namesOfTypes, List.forall_mem_append] at used
    rw [Expr.parts] at held
    rw [CSharp.expressionText]
    have first := admits.operand left (expressionText admits left clean.1 used.1
      fun value inside => held value (List.mem_cons_of_mem _ (List.mem_append_left _ inside)))
    have second := admits.operand right (expressionText admits right clean.2 used.2
      fun value inside => held value (List.mem_cons_of_mem _ (List.mem_append_right _ inside)))
    exact (((first.append admits.fixed).append (admits.operatorSign operator)).append
      admits.fixed).append second
  | .foreign _ => by
    intro _ _ _
    rw [CSharp.expressionText]
    exact .empty

theorem expressionTexts (admits : Admits words imports types constants P) : ∀ es : List Expr,
    (∀ site ∈ exprSites es, causeAt words site = none) →
    (∀ name ∈ namesOfTypesAll es, name ∈ types) →
    (∀ value, .literal value ∈ exprParts es → constants value) →
    ∀ text ∈ CSharp.expressionTexts imports es, MadeOf P text
  | [] => by
    intro _ _ _ text member
    cases member
  | e :: rest => by
    intro clean used held
    rw [exprSites, List.forall_mem_append] at clean
    rw [namesOfTypesAll, List.forall_mem_append] at used
    rw [exprParts] at held
    rw [CSharp.expressionTexts, List.forall_mem_cons]
    exact ⟨expressionText admits e clean.1 used.1 fun value inside =>
        held value (List.mem_append_left _ inside),
      expressionTexts admits rest clean.2 used.2 fun value inside =>
        held value (List.mem_append_right _ inside)⟩

end

theorem initializerText (admits : Admits words imports types constants P) (value : Option Expr)
    (clean : ∀ site ∈ optionSites value, causeAt words site = none)
    (used : ∀ name ∈ optionTypeNames value, name ∈ types)
    (held : ∀ constant, .literal constant ∈ exprParts value.toList → constants constant) :
    MadeOf P (CSharp.initializerText imports value) := by
  cases value with
  | none => exact .empty
  | some e =>
    rw [Option.toList_some, exprParts, exprParts, List.append_nil] at held
    exact admits.fixed.append (admits.expressionText e clean used held)

/-! ## Statements -/

mutual

theorem statementRows (admits : Admits words imports types constants P) :
    ∀ s : Stmt, (∀ site ∈ s.sites, causeAt words site = none) →
    (∀ name ∈ stmtTypeNames s, name ∈ types) →
    (∀ value, .literal value ∈ exprParts (s.parts.flatMap Stmt.ownExpressions) → constants value) →
    RowsMade P (CSharp.statementRows imports s)
  | .declare type name value => by
    intro clean used held
    rw [Stmt.sites, List.forall_mem_cons, List.forall_mem_append] at clean
    rw [stmtTypeNames, List.forall_mem_append] at used
    rw [Stmt.parts, List.flatMap_singleton, Stmt.ownExpressions] at held
    rw [CSharp.statementRows]
    have initial := admits.initializerText value clean.2.2 used.2 held
    exact .single (((((admits.typeText type used.1).append admits.fixed).append
      (admits.checked clean.1)).append initial).append admits.fixed)
  | .assign left right => by
    intro clean used held
    rw [Stmt.sites, List.forall_mem_append] at clean
    rw [stmtTypeNames, List.forall_mem_append] at used
    rw [Stmt.parts, List.flatMap_singleton, Stmt.ownExpressions, exprParts, exprParts, exprParts,
      List.append_nil] at held
    rw [CSharp.statementRows]
    have first := admits.expressionText left clean.1 used.1 fun value inside =>
      held value (List.mem_append_left _ inside)
    have second := admits.expressionText right clean.2 used.2 fun value inside =>
      held value (List.mem_append_right _ inside)
    exact .single (((first.append admits.fixed).append second).append admits.fixed)
  | .condition test whenTrue whenFalse => by
    intro clean used held
    rw [Stmt.sites, List.forall_mem_append, List.forall_mem_append] at clean
    rw [stmtTypeNames, List.forall_mem_append, List.forall_mem_append] at used
    rw [Stmt.parts, List.flatMap_cons, List.flatMap_append, Stmt.ownExpressions, exprParts_append,
      exprParts_append, exprParts, exprParts, List.append_nil] at held
    rw [CSharp.statementRows]
    have tested := admits.expressionText test clean.1 used.1 fun value inside =>
      held value (List.mem_append_left _ inside)
    have first := statementsRows admits whenTrue clean.2.1 used.2.1 fun value inside =>
      held value (List.mem_append_right _ (List.mem_append_left _ inside))
    have second := statementsRows admits whenFalse clean.2.2 used.2.2 fun value inside =>
      held value (List.mem_append_right _ (List.mem_append_right _ inside))
    refine .cons ((admits.fixed.append tested).append admits.fixed) ?_
    refine (admits.braced first).append ?_
    split
    · exact .nil
    · exact .cons admits.fixed (admits.braced second)
  | .returns none => by
    intro _ _ _
    rw [CSharp.statementRows]
    exact .single admits.fixed
  | .returns (some value) => by
    intro clean used held
    rw [Stmt.parts, List.flatMap_singleton, Stmt.ownExpressions, Option.toList_some, exprParts,
      exprParts, List.append_nil] at held
    rw [CSharp.statementRows]
    exact .single ((admits.fixed.append (admits.expressionText value clean used held)).append
      admits.fixed)
  | .expression value => by
    intro clean used held
    rw [Stmt.parts, List.flatMap_singleton, Stmt.ownExpressions, exprParts, exprParts,
      List.append_nil] at held
    rw [CSharp.statementRows]
    exact .single ((admits.expressionText value clean used held).append admits.fixed)
  | .foreign _ => by
    intro _ _ _
    rw [CSharp.statementRows]
    exact .nil

theorem statementsRows (admits : Admits words imports types constants P) : ∀ body : List Stmt,
    (∀ site ∈ stmtSites body, causeAt words site = none) →
    (∀ name ∈ stmtsTypeNames body, name ∈ types) →
    (∀ value, .literal value ∈ exprParts ((stmtParts body).flatMap Stmt.ownExpressions) →
      constants value) →
    RowsMade P (CSharp.statementsRows imports body)
  | [] => by
    intro _ _ _
    rw [CSharp.statementsRows]
    exact .nil
  | s :: rest => by
    intro clean used held
    rw [stmtSites, List.forall_mem_append] at clean
    rw [stmtsTypeNames, List.forall_mem_append] at used
    rw [stmtParts, List.flatMap_append, exprParts_append] at held
    rw [CSharp.statementsRows]
    exact (statementRows admits s clean.1 used.1 fun value inside =>
        held value (List.mem_append_left _ inside)).append
      (statementsRows admits rest clean.2 used.2 fun value inside =>
        held value (List.mem_append_right _ inside))

end

/-! ## Members and classes -/

theorem access (admits : Admits words imports types constants P)
    (access : Access) : MadeOf P access.keyword := by
  cases access <;> exact admits.fixed

theorem modifiers (admits : Admits words imports types constants P)
    (access : Access) (isStatic : Bool) :
    MadeOf P (CSharp.modifiers access isStatic) := by
  unfold CSharp.modifiers
  split
  · exact (admits.access access).append admits.fixed
  · exact admits.access access

theorem accessorRows (admits : Admits words imports types constants P)
    (keyword : String) (listed : keyword ∈ rowSigns) (a : Accessor)
    {type : TypeRef} (clean : ∀ site ∈ a.sites type, causeAt words site = none)
    (used : ∀ name ∈ accessorTypeNames a, name ∈ types)
    (held : ∀ value, .literal value ∈ exprParts ((stmtParts a.statements).flatMap
      Stmt.ownExpressions) → constants value) :
    RowsMade P (CSharp.accessorRows imports keyword a) := by
  unfold CSharp.accessorRows
  split
  · next present =>
    rw [Accessor.sites, if_pos present, List.forall_mem_append] at clean
    rw [accessorTypeNames, if_pos present] at used
    rw [Accessor.statements, if_pos present] at held
    have body := admits.statementsRows a.body clean.2 used held
    exact .cons (admits.fixed listed) (admits.braced body)
  · exact .nil

theorem parameterText (admits : Admits words imports types constants P)
    (p : Parameter) (clean : ∀ site ∈ p.sites, causeAt words site = none)
    (used : ∀ name ∈ typeNames p.type, name ∈ types) :
    MadeOf P (CSharp.parameterText imports p) := by
  rw [Parameter.sites, List.forall_mem_cons] at clean
  exact ((admits.typeText p.type used).append admits.fixed).append (admits.checked clean.1)

theorem memberRows (admits : Admits words imports types constants P)
    (m : Member) (clean : ∀ site ∈ m.sites, causeAt words site = none)
    (used : ∀ name ∈ memberTypeNames m, name ∈ types)
    (held : ∀ value, .literal value ∈ m.expressions → constants value) :
    RowsMade P (CSharp.memberRows imports m) := by
  cases m with
  | field f =>
    rw [Member.sites, Field.sites, List.forall_mem_cons, List.forall_mem_append] at clean
    rw [memberTypeNames, List.forall_mem_append] at used
    rw [Member.expressions, exprParts_append] at held
    have initial := admits.initializerText f.initializer clean.2.2 used.2 fun value inside =>
      held value (List.mem_append_left _ inside)
    exact .single (((((((admits.modifiers f.access f.isStatic).append admits.fixed).append
      (admits.typeText f.type used.1)).append admits.fixed).append (admits.checked clean.1)).append
        initial).append admits.fixed)
  | property p =>
    rw [Member.sites, Property.sites, List.forall_mem_cons, List.forall_mem_append] at clean
    rw [memberTypeNames, List.forall_mem_append, List.forall_mem_append] at used
    rw [Member.expressions, exprParts_append, Member.statements, stmtParts_append,
      List.flatMap_append, exprParts_append] at held
    have getter := admits.accessorRows "get" (by decide) p.getter clean.2.1 used.2.1
      fun value inside => held value (List.mem_append_right _ (List.mem_append_left _ inside))
    have setter := admits.accessorRows "set" (by decide) p.setter clean.2.2 used.2.2
      fun value inside => held value (List.mem_append_right _ (List.mem_append_right _ inside))
    refine .cons ((((admits.access p.access).append admits.fixed).append
      (admits.typeText p.type used.1)).append admits.fixed |>.append (admits.checked clean.1)) ?_
    exact admits.braced (getter.append setter)
  | method m =>
    rw [Member.sites, Method.sites, List.forall_mem_cons, List.forall_mem_append,
      List.forall_mem_append, List.forall_mem_flatMap] at clean
    rw [memberTypeNames, List.forall_mem_append, List.forall_mem_append,
      List.forall_mem_flatMap] at used
    rw [Member.expressions, exprParts_append, Member.statements] at held
    have parameters :
        MadeOf P (", ".intercalate (m.parameters.map (CSharp.parameterText imports))) :=
      admits.commaSeparated (List.forall_mem_map.mpr fun p listed =>
        admits.parameterText p (clean.2.1 p listed) (used.1 p listed))
    have body := admits.statementsRows m.body clean.2.2.2 used.2.2 fun value inside =>
      held value (List.mem_append_right _ inside)
    refine .cons ((((((((admits.modifiers m.access m.isStatic).append admits.fixed).append
      (admits.typeText m.returnType used.2.1)).append admits.fixed).append
        (admits.checked clean.1)).append admits.fixed).append parameters).append admits.fixed) ?_
    exact admits.braced body
  | foreign _ _ => exact .nil

/-- **The rows of a class** in which nothing was found wrong are made of the pieces of its tree. -/
theorem classRows (admits : Admits words imports types constants P)
    (c : ClassDecl) (clean : ∀ v ∈ c.visits, causeAt words v.site = none)
    (used : ∀ name ∈ c.members.flatMap memberTypeNames, name ∈ types)
    (held : ∀ value, .literal value ∈ c.expressions → constants value) :
    RowsMade P (CSharp.classRows imports c) := by
  have sites := (ClassDecl.forall_visits_iff (causeAt words · = none)).mp clean
  rw [List.forall_mem_flatMap] at used
  have partialWord : MadeOf P (if c.isPartial then " partial" else "") := by
    split
    · exact admits.fixed
    · exact .empty
  refine .cons ((((admits.access c.access).append partialWord).append admits.fixed).append
    (admits.checked sites.1)) (admits.braced (.separated ?_))
  rw [List.forall_mem_map]
  exact fun m listed => admits.memberRows m (sites.2 m listed) (used m listed) fun value inside =>
    held value (List.mem_flatMap.mpr ⟨m, listed, inside⟩)

end Admits

end ServiceWriter.CSharp

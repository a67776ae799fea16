import ServiceWriter.Proofs.Walk.Site

/-!
# Parts of a tree

The types, the expressions and the statements of a class, as lists in the order of the text. A type
has its arguments as parts (`TypeRef.parts`), an expression the expressions inside it (`Expr.parts`),
a statement the statements of its branches (`Stmt.parts`). A property has the bodies of the accessors that it has; what an absent accessor holds
is no part of the class.

What is visited in a part is visited in the whole (`mem_sites_of_mem_parts`,
`mem_stmtSites_of_mem_stmtParts`).
-/

set_option autoImplicit false

namespace ServiceWriter

/-! ## Types -/

mutual

/-- A type and the types among its arguments, at whatever depth. -/
def TypeRef.parts : TypeRef → List TypeRef
  | .mk name arguments => .mk name arguments :: typeParts arguments

/-- The parts of a list of types. -/
def typeParts : List TypeRef → List TypeRef
  | [] => []
  | type :: rest => type.parts ++ typeParts rest

end

/-! ## Expressions -/

mutual

/-- An expression and all expressions inside it, the outermost first. -/
def Expr.parts : Expr → List Expr
  | .field target name => .field target name :: target.parts
  | .property target name => .property target name :: target.parts
  | .create type arguments => .create type arguments :: exprParts arguments
  | .invoke target method arguments =>
    .invoke target method arguments :: (target.parts ++ exprParts arguments)
  | .binary left operator right => .binary left operator right :: (left.parts ++ right.parts)
  | .literal value => [.literal value]
  | .this => [.this]
  | .variableRef name => [.variableRef name]
  | .argumentRef name => [.argumentRef name]
  | .typeName type => [.typeName type]
  | .foreign node => [.foreign node]

/-- The parts of a list of expressions. -/
def exprParts : List Expr → List Expr
  | [] => []
  | e :: rest => e.parts ++ exprParts rest

end

theorem exprParts_append (es es' : List Expr) :
    exprParts (es ++ es') = exprParts es ++ exprParts es' := by
  induction es with
  | nil => rfl
  | cons e rest ih => rw [List.cons_append, exprParts, exprParts, ih, List.append_assoc]

theorem exists_mem_of_mem_exprParts {part : Expr} {es : List Expr} (inside : part ∈ exprParts es) :
    ∃ e ∈ es, part ∈ e.parts := by
  induction es with
  | nil => cases inside
  | cons e rest ih =>
    rw [exprParts, List.mem_append] at inside
    rcases inside with here | later
    · exact ⟨e, List.mem_cons_self, here⟩
    · obtain ⟨e', among, found⟩ := ih later
      exact ⟨e', List.mem_cons_of_mem e among, found⟩

section

variable {site : Site} {part : Expr}

mutual

/-- What is visited in a part of an expression is visited in the expression. -/
theorem mem_sites_of_mem_parts (visited : site ∈ part.sites) :
    ∀ e : Expr, part ∈ e.parts → site ∈ e.sites
  | .literal _, inside | .this, inside | .variableRef _, inside | .argumentRef _, inside
  | .typeName _, inside | .foreign _, inside => by
    rw [Expr.parts, List.mem_singleton] at inside
    exact inside ▸ visited
  | .field target name, inside | .property target name, inside => by
    rw [Expr.parts] at inside
    rcases List.mem_cons.mp inside with rfl | inside
    · exact visited
    · rw [Expr.sites]
      exact List.mem_cons_of_mem _ (mem_sites_of_mem_parts visited target inside)
  | .create type arguments, inside => by
    rw [Expr.parts] at inside
    rcases List.mem_cons.mp inside with rfl | inside
    · exact visited
    · have among := mem_exprSites_of_mem_exprParts visited arguments inside
      rw [Expr.sites]
      exact List.mem_cons_of_mem _ (List.mem_append_right _ among)
  | .invoke target method arguments, inside => by
    rw [Expr.parts] at inside
    rcases List.mem_cons.mp inside with rfl | inside
    · exact visited
    · rw [Expr.sites]
      refine List.mem_cons_of_mem _ (List.mem_append.mpr ?_)
      exact (List.mem_append.mp inside).imp (mem_sites_of_mem_parts visited target)
        (mem_exprSites_of_mem_exprParts visited arguments)
  | .binary left operator right, inside => by
    rw [Expr.parts] at inside
    rcases List.mem_cons.mp inside with rfl | inside
    · exact visited
    · rw [Expr.sites]
      exact List.mem_append.mpr ((List.mem_append.mp inside).imp
        (mem_sites_of_mem_parts visited left) (mem_sites_of_mem_parts visited right))

theorem mem_exprSites_of_mem_exprParts (visited : site ∈ part.sites) :
    ∀ es : List Expr, part ∈ exprParts es → site ∈ exprSites es
  | [], inside => nomatch inside
  | e :: rest, inside => by
    rw [exprParts] at inside
    rw [exprSites]
    exact List.mem_append.mpr ((List.mem_append.mp inside).imp
      (mem_sites_of_mem_parts visited e) (mem_exprSites_of_mem_exprParts visited rest))

end

end

/-! ## Statements -/

mutual

/-- A statement and all statements in its branches, the outermost first. -/
def Stmt.parts : Stmt → List Stmt
  | .condition test whenTrue whenFalse =>
    .condition test whenTrue whenFalse :: (stmtParts whenTrue ++ stmtParts whenFalse)
  | .declare type name value => [.declare type name value]
  | .assign left right => [.assign left right]
  | .returns value => [.returns value]
  | .expression value => [.expression value]
  | .foreign node => [.foreign node]

/-- The parts of a list of statements. -/
def stmtParts : List Stmt → List Stmt
  | [] => []
  | s :: rest => s.parts ++ stmtParts rest

end

theorem stmtParts_append (body body' : List Stmt) :
    stmtParts (body ++ body') = stmtParts body ++ stmtParts body' := by
  induction body with
  | nil => rfl
  | cons s rest ih => rw [List.cons_append, stmtParts, stmtParts, ih, List.append_assoc]

/-- The expressions that a statement itself is made of. -/
def Stmt.ownExpressions : Stmt → List Expr
  | .declare _ _ value => value.toList
  | .assign left right => [left, right]
  | .condition test _ _ => [test]
  | .returns value => value.toList
  | .expression value => [value]
  | .foreign _ => []

/-- The type that a statement gives to a variable. -/
def Stmt.ownTypes : Stmt → List TypeRef
  | .declare type _ _ => [type]
  | _ => []

section

variable {site : Site} {part : Stmt}

mutual

theorem mem_sites_of_mem_stmt_parts (visited : site ∈ part.sites) :
    ∀ s : Stmt, part ∈ s.parts → site ∈ s.sites
  | .declare _ _ _, inside | .assign _ _, inside | .returns _, inside | .expression _, inside
  | .foreign _, inside => by
    rw [Stmt.parts, List.mem_singleton] at inside
    exact inside ▸ visited
  | .condition test whenTrue whenFalse, inside => by
    rw [Stmt.parts] at inside
    rcases List.mem_cons.mp inside with rfl | inside
    · exact visited
    · rw [Stmt.sites]
      refine List.mem_append_right _ (List.mem_append.mpr ?_)
      exact (List.mem_append.mp inside).imp (mem_stmtSites_of_mem_stmtParts visited whenTrue)
        (mem_stmtSites_of_mem_stmtParts visited whenFalse)

/-- What is visited in a part of a body is visited in the body. -/
theorem mem_stmtSites_of_mem_stmtParts (visited : site ∈ part.sites) :
    ∀ body : List Stmt, part ∈ stmtParts body → site ∈ stmtSites body
  | [], inside => nomatch inside
  | s :: rest, inside => by
    rw [stmtParts] at inside
    rw [stmtSites]
    exact List.mem_append.mpr ((List.mem_append.mp inside).imp
      (mem_sites_of_mem_stmt_parts visited s) (mem_stmtSites_of_mem_stmtParts visited rest))

end

theorem mem_optionSites {value : Option Expr} {e : Expr} (given : e ∈ value.toList)
    (visited : site ∈ e.sites) : site ∈ optionSites value := by
  rw [Option.mem_toList] at given
  cases given
  exact visited

theorem mem_sites_of_mem_ownExpressions {s : Stmt} {e : Expr} (own : e ∈ s.ownExpressions)
    (visited : site ∈ e.sites) : site ∈ s.sites := by
  cases s with
  | declare type name value =>
    rw [Stmt.sites]
    exact List.mem_cons_of_mem _ (List.mem_append_right _ (mem_optionSites own visited))
  | assign left right =>
    rw [Stmt.sites, List.mem_append]
    rcases List.mem_cons.mp own with rfl | own
    · exact .inl visited
    · rw [List.mem_singleton.mp own] at visited
      exact .inr visited
  | condition test whenTrue whenFalse =>
    rw [List.mem_singleton.mp own] at visited
    rw [Stmt.sites]
    exact List.mem_append_left _ visited
  | returns value =>
    rw [Stmt.sites]
    exact mem_optionSites own visited
  | expression value =>
    rw [List.mem_singleton.mp own] at visited
    rw [Stmt.sites]
    exact visited
  | foreign node => cases own

theorem mem_sites_of_mem_ownTypes {s : Stmt} {type : TypeRef} (own : type ∈ s.ownTypes)
    (visited : site ∈ type.sites) : site ∈ s.sites := by
  cases s with
  | declare other name value =>
    rw [List.mem_singleton.mp own] at visited
    rw [Stmt.sites]
    exact List.mem_cons_of_mem _ (List.mem_append_left _ visited)
  | _ => cases own

end

/-! ## Members and classes -/

/-- The statements of an accessor, none if the property does not have it. -/
def Accessor.statements (a : Accessor) : List Stmt := if a.isPresent then a.body else []

/-- The statements of a member. -/
def Member.statements : Member → List Stmt
  | .property p => p.getter.statements ++ p.setter.statements
  | .method m => m.body
  | .field _ | .foreign _ _ => []

/-- The value that a member starts out with. -/
def Member.initializer : Member → Option Expr
  | .field f => f.initializer
  | _ => none

/-- The expressions of a member, at whatever depth. -/
def Member.expressions (m : Member) : List Expr :=
  exprParts (m.initializer.toList ++ (stmtParts m.statements).flatMap Stmt.ownExpressions)

/-- The expressions of a class, at whatever depth. -/
def ClassDecl.expressions (c : ClassDecl) : List Expr := c.members.flatMap Member.expressions

/-- The types that a member is declared with: an accessor has the type of its property. -/
def Member.ownTypes : Member → List TypeRef
  | .field f => [f.type]
  | .property p =>
    (if p.getter.isPresent then [p.type] else []) ++ (if p.setter.isPresent then [p.type] else [])
  | .method m => m.parameters.map Parameter.type ++ [m.returnType]
  | .foreign _ _ => []

/-- The types that the members of a class are declared with. -/
def ClassDecl.memberTypes (c : ClassDecl) : List TypeRef := c.members.flatMap Member.ownTypes

/-- The types of the local variables of a class. -/
def ClassDecl.variableTypes (c : ClassDecl) : List TypeRef :=
  c.members.flatMap fun m => (stmtParts m.statements).flatMap Stmt.ownTypes

section

variable {site : Site}

theorem mem_typeSites {types : List TypeRef} {type : TypeRef} (among : type ∈ types)
    (visited : site ∈ type.sites) : site ∈ typeSites types := by
  induction types with
  | nil => cases among
  | cons first rest ih =>
    rw [typeSites, List.mem_append]
    rcases List.mem_cons.mp among with rfl | among
    · exact .inl visited
    · exact .inr (ih among)

theorem Accessor.mem_sites_of_statements {a : Accessor} {type : TypeRef}
    (visited : site ∈ stmtSites a.statements) : site ∈ a.sites type := by
  unfold Accessor.statements at visited
  unfold Accessor.sites
  split at visited
  · rename_i present
    rw [if_pos present]
    exact List.mem_append_right _ visited
  · cases visited

theorem Accessor.mem_sites_of_type {a : Accessor} {type : TypeRef} (present : a.isPresent = true)
    (visited : site ∈ type.sites) : site ∈ a.sites type := by
  rw [Accessor.sites, if_pos present]
  exact List.mem_append_left _ visited

theorem stmtSites_append (body body' : List Stmt) :
    stmtSites (body ++ body') = stmtSites body ++ stmtSites body' := by
  induction body with
  | nil => rfl
  | cons s rest ih => rw [List.cons_append, stmtSites, stmtSites, ih, List.append_assoc]

theorem exists_visit_of_mem_sites {subject : String} {sites : List Site} (visited : site ∈ sites) :
    ∃ v ∈ visitsOf subject sites, v.site = site :=
  ⟨⟨site, subject⟩, List.mem_map.mpr ⟨site, visited, rfl⟩, rfl⟩

namespace Member

variable {m : Member} {owner : String}

/-- What the statements of a member visit is visited in the member. -/
theorem exists_visit_of_statements (visited : site ∈ stmtSites m.statements) :
    ∃ v ∈ m.visits owner, v.site = site := by
  cases m with
  | field f | foreign name node => cases visited
  | property p =>
    refine exists_visit_of_mem_sites (List.mem_cons_of_mem _ (List.mem_append.mpr ?_))
    rw [Member.statements, stmtSites_append, List.mem_append] at visited
    exact visited.imp Accessor.mem_sites_of_statements Accessor.mem_sites_of_statements
  | method m =>
    exact exists_visit_of_mem_sites
      (List.mem_cons_of_mem _ (List.mem_append_right _ (List.mem_append_right _ visited)))

theorem exists_visit_of_initializer (visited : site ∈ optionSites m.initializer) :
    ∃ v ∈ m.visits owner, v.site = site := by
  cases m with
  | field f =>
    exact exists_visit_of_mem_sites (List.mem_cons_of_mem _ (List.mem_append_right _ visited))
  | property _ | method _ | foreign _ _ => cases visited

/-- What the types of a member visit is visited in the member. -/
theorem exists_visit_of_ownTypes {type : TypeRef} (own : type ∈ m.ownTypes)
    (visited : site ∈ type.sites) : ∃ v ∈ m.visits owner, v.site = site := by
  cases m with
  | field f =>
    rw [List.mem_singleton.mp own] at visited
    exact exists_visit_of_mem_sites (List.mem_cons_of_mem _ (List.mem_append_left _ visited))
  | property p =>
    refine exists_visit_of_mem_sites (List.mem_cons_of_mem _ (List.mem_append.mpr ?_))
    rw [Member.ownTypes, List.mem_append, List.mem_ite_nil_right, List.mem_ite_nil_right] at own
    simp only [List.mem_singleton] at own
    rcases own with ⟨present, rfl⟩ | ⟨present, rfl⟩
    · exact .inl (Accessor.mem_sites_of_type present visited)
    · exact .inr (Accessor.mem_sites_of_type present visited)
  | method m =>
    refine exists_visit_of_mem_sites (List.mem_cons_of_mem _ (List.mem_append.mpr ?_))
    rcases List.mem_append.mp own with parameter | result
    · obtain ⟨p, listed, rfl⟩ := List.mem_map.mp parameter
      exact .inl (List.mem_flatMap.mpr ⟨p, listed, List.mem_cons_of_mem _ visited⟩)
    · rw [List.mem_singleton.mp result] at visited
      exact .inr (List.mem_append_left _ visited)
  | foreign name node => cases own

/-- What an expression of a member visits is visited in the member. -/
theorem exists_visit_of_expressions {e : Expr} (inside : e ∈ m.expressions)
    (visited : site ∈ e.sites) : ∃ v ∈ m.visits owner, v.site = site := by
  obtain ⟨whole, among, part⟩ := exists_mem_of_mem_exprParts inside
  have visited := mem_sites_of_mem_parts visited whole part
  rcases List.mem_append.mp among with initial | own
  · exact exists_visit_of_initializer (mem_optionSites initial visited)
  · obtain ⟨s, part, own⟩ := List.mem_flatMap.mp own
    exact exists_visit_of_statements
      (mem_stmtSites_of_mem_stmtParts (mem_sites_of_mem_ownExpressions own visited) _ part)

end Member

namespace ClassDecl

variable {c : ClassDecl}

theorem exists_visit_of_member {m : Member} (inside : m ∈ c.members)
    (visited : ∃ v ∈ m.visits c.name, v.site = site) : ∃ v ∈ c.visits, v.site = site := by
  obtain ⟨v, among, found⟩ := visited
  exact ⟨v, List.mem_cons_of_mem _ (List.mem_flatMap.mpr ⟨m, inside, among⟩), found⟩

/-- What an expression of a class visits is visited in the class. -/
theorem exists_visit_of_expressions {e : Expr} (inside : e ∈ c.expressions)
    (visited : site ∈ e.sites) : ∃ v ∈ c.visits, v.site = site := by
  obtain ⟨m, listed, inside⟩ := List.mem_flatMap.mp inside
  exact exists_visit_of_member listed (Member.exists_visit_of_expressions inside visited)

theorem exists_visit_of_memberTypes {type : TypeRef} (inside : type ∈ c.memberTypes)
    (visited : site ∈ type.sites) : ∃ v ∈ c.visits, v.site = site := by
  obtain ⟨m, listed, own⟩ := List.mem_flatMap.mp inside
  exact exists_visit_of_member listed (Member.exists_visit_of_ownTypes own visited)

theorem exists_visit_of_variableTypes {type : TypeRef} (inside : type ∈ c.variableTypes)
    (visited : site ∈ type.sites) : ∃ v ∈ c.visits, v.site = site := by
  obtain ⟨m, listed, inside⟩ := List.mem_flatMap.mp inside
  obtain ⟨s, part, own⟩ := List.mem_flatMap.mp inside
  exact exists_visit_of_member listed (Member.exists_visit_of_statements
    (mem_stmtSites_of_mem_stmtParts (mem_sites_of_mem_ownTypes own visited) _ part))

end ClassDecl

end

end ServiceWriter

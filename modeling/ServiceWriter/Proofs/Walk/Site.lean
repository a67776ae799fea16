import ServiceWriter.Proofs.Defect.Collecting
import ServiceWriter.Target.TypeScript

/-!
# Sites

A site is a place of a code tree that an emitter looks at: a name, a number, a node that does not
belong where it stands, or a reference to a type. A visit is a site together with the subject it is
reported under. The visits of a tree are listed in the order of the walk; both emitters walk in this
order, and differ only in what they make of a site.

References to types are listed where they are printed by their simple name, in the order in which
their imports are recorded. Nothing is visited in the body of an accessor that a property does not
have.
-/

set_option autoImplicit false

namespace ServiceWriter

open Text

/-- A place of a tree that an emitter looks at. -/
inductive Site where
  /-- The name of a field, a property or a method, where it is declared or used. -/
  | member (name : String)
  /-- The name of a class, a part of a namespace, a parameter or a local variable, where it is
  declared or read. -/
  | binding (name : String)
  /-- A number. -/
  | number (value : Binary64)
  /-- A node of a kind that does not belong where it stands. -/
  | foreign (kind : String)
  /-- A reference to a type, by its full name. -/
  | type (fullName : String)
  deriving DecidableEq, Repr

/-- A site and the subject that a defect there is reported under. -/
structure Visit where
  site : Site
  subject : String
  deriving DecidableEq, Repr

/-- Sites under one subject. -/
def visitsOf (subject : String) (sites : List Site) : List Visit :=
  sites.map (⟨·, subject⟩)

@[simp] theorem visitsOf_append (subject : String) (sites sites' : List Site) :
    visitsOf subject (sites ++ sites') = visitsOf subject sites ++ visitsOf subject sites' :=
  List.map_append

theorem visitsOf_cons (subject : String) (site : Site) (sites : List Site) :
    visitsOf subject (site :: sites) = visitsOf subject [site] ++ visitsOf subject sites :=
  rfl

/-! ## Causes -/

/-- What is wrong with a name that must be an identifier and no reserved word. -/
def nameCause (words : ReservedWords) (language : Language) (name : String) : Option Cause :=
  if isIdentifier name then
    if words.contains language name then some (.reservedWord name) else none
  else
    some (.notIdentifier name)

/-- What is wrong with a number: nothing if it has a literal. -/
def numberCause (value : Binary64) : Option Cause :=
  if value.isFinite then none else some (.nonFinite value)

/-! ## Types and expressions -/

mutual

/-- The types that are printed by their simple name where a type stands: the type itself and, behind
it, its arguments. A type printed as a keyword is printed without its arguments. -/
def TypeRef.sites : TypeRef → List Site
  | .mk fullName arguments =>
    if TypeScript.keywordTypes.contains (typeScriptTypeName fullName) then []
    else .type fullName :: typeSites arguments

/-- The sites of a list of types. -/
def typeSites : List TypeRef → List Site
  | [] => []
  | type :: rest => type.sites ++ typeSites rest

end

/-- The sites of a constant. -/
def Literal.sites : Literal → List Site
  | .number value => [.number value]
  | _ => []

mutual

/-- The sites of an expression: its own name before its target, the target before the arguments. -/
def Expr.sites : Expr → List Site
  | .literal value => value.sites
  | .this => []
  | .field target name | .property target name => .member name :: target.sites
  | .variableRef name | .argumentRef name => [.binding name]
  | .typeName type => [.type type.name]
  | .create type arguments => .type type.name :: (typeSites type.arguments ++ exprSites arguments)
  | .invoke target method arguments => .member method :: (target.sites ++ exprSites arguments)
  | .binary left _ right => left.sites ++ right.sites
  | .foreign node => [.foreign node.kind]

/-- The sites of a list of expressions. -/
def exprSites : List Expr → List Site
  | [] => []
  | e :: rest => e.sites ++ exprSites rest

end

/-- The sites of an expression that may be absent. -/
def optionSites : Option Expr → List Site
  | none => []
  | some e => e.sites

/-! ## Statements -/

mutual

/-- The sites of a statement. -/
def Stmt.sites : Stmt → List Site
  | .declare type name value => .binding name :: (type.sites ++ optionSites value)
  | .assign left right => left.sites ++ right.sites
  | .condition test whenTrue whenFalse =>
    test.sites ++ (stmtSites whenTrue ++ stmtSites whenFalse)
  | .returns value => optionSites value
  | .expression value => value.sites
  | .foreign node => [.foreign node.kind]

/-- The sites of a list of statements. -/
def stmtSites : List Stmt → List Site
  | [] => []
  | s :: rest => s.sites ++ stmtSites rest

end

/-! ## Members -/

/-- The sites of a field. -/
def Field.sites (f : Field) : List Site :=
  .member f.name :: (f.type.sites ++ optionSites f.initializer)

/-- The sites of an accessor of a property of the given type: none unless the property has it. -/
def Accessor.sites (a : Accessor) (type : TypeRef) : List Site :=
  if a.isPresent then type.sites ++ stmtSites a.body else []

/-- The sites of a property. -/
def Property.sites (p : Property) : List Site :=
  .member p.name :: (p.getter.sites p.type ++ p.setter.sites p.type)

/-- The sites of a parameter. -/
def Parameter.sites (p : Parameter) : List Site :=
  .binding p.name :: p.type.sites

/-- The sites of a method. -/
def Method.sites (m : Method) : List Site :=
  .member m.name ::
    (m.parameters.flatMap Parameter.sites ++ (m.returnType.sites ++ stmtSites m.body))

/-- What is reported inside a member of the class `owner` has both names as its subject. -/
def memberSubject (owner name : String) : String := owner ++ "." ++ name

/-- The visits of a member of the class `owner`. A member of a kind that does not belong in a class
is reported under the class. -/
def Member.visits (owner : String) : Member → List Visit
  | .field f => visitsOf (memberSubject owner f.name) f.sites
  | .property p => visitsOf (memberSubject owner p.name) p.sites
  | .method m => visitsOf (memberSubject owner m.name) m.sites
  | .foreign _ node => [⟨.foreign node.kind, owner⟩]

/-! ## Classes and namespaces -/

/-- The visits of a class. -/
def ClassDecl.visits (c : ClassDecl) : List Visit :=
  ⟨.binding c.name, c.name⟩ :: c.members.flatMap (Member.visits c.name)

/-- The visits of a dotted name: its parts, under the whole name. -/
def dottedVisits (name : String) : List Visit :=
  visitsOf name ((dottedParts name).map .binding)

namespace Namespace

/-- The visits of the imports. -/
def importVisits (n : Namespace) : List Visit := n.imports.flatMap dottedVisits

/-- The visits of the namespace's own name, none if it is empty. -/
def nameVisits (n : Namespace) : List Visit := if n.name = "" then [] else dottedVisits n.name

/-- The visits of the classes. -/
def classVisits (n : Namespace) : List Visit := n.types.flatMap ClassDecl.visits

/-- The visits of the classes and then of the name, without the imports. -/
def declarationVisits (n : Namespace) : List Visit := n.classVisits ++ n.nameVisits

/-- The visits of a namespace. -/
def visits (n : Namespace) : List Visit := n.importVisits ++ n.nameVisits ++ n.classVisits

end Namespace

/-! ## Subjects

The subjects of a walk are the imports, the name of the namespace, the names of the classes, and the
names of classes and members joined by a dot. -/

/-- None of the names that subjects of a class are made of contains U+0000. -/
def ClassDecl.HasPlainNames (c : ClassDecl) : Prop :=
  IsPlain c.name ∧ ∀ m ∈ c.members, IsPlain m.name

/-- None of the names that subjects of a namespace are made of contains U+0000. -/
def Namespace.HasPlainNames (n : Namespace) : Prop :=
  (∀ imported ∈ n.imports, IsPlain imported) ∧ IsPlain n.name ∧ ∀ c ∈ n.types, c.HasPlainNames

theorem isPlain_memberSubject {owner name : String} (plain : IsPlain owner)
    (plain' : IsPlain name) : IsPlain (memberSubject owner name) := by
  unfold IsPlain memberSubject at *
  simp [plain, plain']

theorem subject_of_mem_visitsOf {subject : String} {sites : List Site} {v : Visit}
    (member : v ∈ visitsOf subject sites) : v.subject = subject := by
  obtain ⟨_, _, rfl⟩ := List.mem_map.mp member
  rfl

theorem Member.isPlain_subject {owner : String} {m : Member} {v : Visit} (plain : IsPlain owner)
    (plain' : IsPlain m.name) (member : v ∈ m.visits owner) : IsPlain v.subject := by
  cases m with
  | field f | property p | method m =>
    rw [subject_of_mem_visitsOf member]
    exact isPlain_memberSubject plain plain'
  | foreign name node =>
    rw [List.mem_singleton.mp member]
    exact plain

theorem ClassDecl.isPlain_subject {c : ClassDecl} {v : Visit} (plain : c.HasPlainNames)
    (member : v ∈ c.visits) : IsPlain v.subject := by
  rcases List.mem_cons.mp member with rfl | member
  · exact plain.1
  · obtain ⟨m, inside, member⟩ := List.mem_flatMap.mp member
    exact Member.isPlain_subject plain.1 (plain.2 m inside) member

/-- The subjects of a namespace with plain names are plain. -/
theorem Namespace.isPlain_subject {n : Namespace} {v : Visit} (plain : n.HasPlainNames)
    (member : v ∈ n.visits) : IsPlain v.subject := by
  obtain ⟨plainImports, plainName, plainTypes⟩ := plain
  rcases List.mem_append.mp member with member | member
  · rcases List.mem_append.mp member with member | member
    · obtain ⟨imported, inside, member⟩ := List.mem_flatMap.mp member
      rw [subject_of_mem_visitsOf member]
      exact plainImports imported inside
    · unfold nameVisits at member
      split at member
      · cases member
      · rw [subject_of_mem_visitsOf member]
        exact plainName
  · obtain ⟨c, inside, member⟩ := List.mem_flatMap.mp member
    exact c.isPlain_subject (plainTypes c inside) member

end ServiceWriter

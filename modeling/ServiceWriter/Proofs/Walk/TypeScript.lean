import ServiceWriter.Proofs.Walk.Run
import ServiceWriter.Proofs.Walk.Site
import ServiceWriter.Target.TypeScript

/-!
# What the TypeScript emitter does with a tree

For each part of a tree: the syntax that it becomes, as a function of the tree alone, and what the
visits of the tree do to the state of the emitter. A visit may meet a defect and may record a
reference to a type; whether a type name is ambiguous depends on the references recorded before
(`TypeScript.causeAt`). The run of each action is given in full by its syntax and its visits
(`TypeScript.Performs`).
-/

set_option autoImplicit false

namespace ServiceWriter

open Text

namespace TypeScript

/-! ## Visits -/

/-- Whether a type must be imported where the types of one namespace are local. -/
def isImported (localNamespace fullName : String) : Bool :=
  !(namespaceOf fullName = "" || namespaceOf fullName = localNamespace)

/-- The references after a site: a type that must be imported is recorded. -/
def referencesAt (localNamespace : String) (references : References) : Site → References
  | .type fullName =>
    if isImported localNamespace fullName then (references.referTo fullName).1 else references
  | _ => references

/-- What is wrong with a site in TypeScript, given the references recorded before it. -/
def causeAt (words : ReservedWords) (localNamespace : String) (references : References) :
    Site → Option Cause
  | .member name => if isIdentifier name then none else some (.notIdentifier name)
  | .binding name => nameCause words .typescript name
  | .number value => numberCause value
  | .foreign kind => some (.unsupportedKind kind)
  | .type fullName =>
    if isImported localNamespace fullName then
      (references.referTo fullName).2.map (.ambiguousType (simpleName fullName) · fullName)
    else none

/-- The references after a walk. -/
def referencesOn (localNamespace : String) (references : References) (visits : List Visit) :
    References :=
  visits.foldl (fun references v => referencesAt localNamespace references v.site) references

/-- The defects met on a walk in TypeScript. -/
def defectsOn (words : ReservedWords) (localNamespace : String) :
    References → List Visit → List Defect
  | _, [] => []
  | references, v :: rest =>
    ((causeAt words localNamespace references v.site).map (⟨·, v.subject⟩)).toList ++
      defectsOn words localNamespace (referencesAt localNamespace references v.site) rest

theorem referencesOn_append (localNamespace : String) (references : References)
    (visits visits' : List Visit) :
    referencesOn localNamespace references (visits ++ visits') =
      referencesOn localNamespace (referencesOn localNamespace references visits) visits' :=
  List.foldl_append

theorem defectsOn_append (words : ReservedWords) (localNamespace : String)
    (references : References) (visits visits' : List Visit) :
    defectsOn words localNamespace references (visits ++ visits') =
      defectsOn words localNamespace references visits ++
        defectsOn words localNamespace (referencesOn localNamespace references visits) visits' := by
  induction visits generalizing references with
  | nil => rfl
  | cons v rest ih =>
    rw [List.cons_append, defectsOn, defectsOn, ih, List.append_assoc]
    rfl

/-- What is found at a visit, after some references, is reported under its subject. -/
theorem exists_visit_of_mem {words : ReservedWords} {localNamespace : String}
    {references : References} {visits : List Visit} {d : Defect}
    (member : d ∈ defectsOn words localNamespace references visits) :
    ∃ v ∈ visits, ∃ references' : References,
      causeAt words localNamespace references' v.site = some d.cause ∧ v.subject = d.subject := by
  induction visits generalizing references with
  | nil => cases member
  | cons v rest ih =>
    rcases List.mem_append.mp member with here | later
    · obtain ⟨cause, found, rfl⟩ := Option.map_eq_some_iff.mp (Option.mem_toList.mp here)
      exact ⟨v, List.mem_cons_self, references, found, rfl⟩
    · obtain ⟨w, inside, found⟩ := ih later
      exact ⟨w, List.mem_cons_of_mem v inside, found⟩

theorem isPlain_of_mem {words : ReservedWords} {localNamespace : String} {references : References}
    {visits : List Visit} {d : Defect} (plain : ∀ v ∈ visits, IsPlain v.subject)
    (member : d ∈ defectsOn words localNamespace references visits) : IsPlain d.subject := by
  obtain ⟨v, inside, _, _, same⟩ := exists_visit_of_mem member
  exact same ▸ plain v inside

/-! ## Syntax -/

mutual

/-- The node of a type. -/
def nodeOf : TypeRef → TypeNode
  | .mk fullName arguments =>
    if keywordTypes.contains (typeScriptTypeName fullName) then
      .keyword (typeScriptTypeName fullName)
    else .reference (simpleName fullName) (nodesOf arguments)

/-- The nodes of a list of types. -/
def nodesOf : List TypeRef → List TypeNode
  | [] => []
  | type :: rest => nodeOf type :: nodesOf rest

end

/-- The term of a constant. -/
def literalTerm : Literal → Term
  | .null => .word "null"
  | .bool value => .word (if value then "true" else "false")
  | .text value => .text value
  | .number value =>
    if !value.isFinite then .number "0"
    else if value.isNegative then .negated value.abs.text
    else .number value.text

mutual

/-- The term of an expression. -/
def termOf : Expr → Term
  | .literal value => literalTerm value
  | .this => .word "this"
  | .field target name | .property target name => .access (termOf target) name
  | .variableRef name | .argumentRef name => .name name
  | .typeName type => .name (simpleName type.name)
  | .create type arguments =>
    .create (simpleName type.name) (nodesOf type.arguments) (termsOf arguments)
  | .invoke target method arguments =>
    .call (.access (termOf target) (calledName method)) (termsOf arguments)
  | .binary left operator right =>
    .binary (operand left (termOf left)) (operatorSign operator) (operand right (termOf right))
  | .foreign _ => .name "undefined"

/-- The terms of a list of expressions. -/
def termsOf : List Expr → List Term
  | [] => []
  | e :: rest => termOf e :: termsOf rest

end

mutual

/-- The commands of a statement, none if it cannot be emitted. -/
def commandsOf : Stmt → List Command
  | .declare type name value => [.declare name (nodeOf type) (value.map termOf)]
  | .assign left right => [.assign (termOf left) (termOf right)]
  | .condition test whenTrue whenFalse =>
    [.condition (termOf test) (blockOf whenTrue) (blockOf whenFalse)]
  | .returns value => [.returns (value.map termOf)]
  | .expression value => [.expression (termOf value)]
  | .foreign _ => []

/-- The commands of a list of statements. -/
def blockOf : List Stmt → List Command
  | [] => []
  | s :: rest => commandsOf s ++ blockOf rest

end

/-- The element of a field. -/
def fieldElements (f : Field) : List Element :=
  let type := if startsNull f then .orNull (nodeOf f.type) else nodeOf f.type
  [.field f.access f.isStatic ⟨f.name, type⟩ (f.initializer.map termOf)]

/-- The element of an accessor, none if the property does not have it. -/
def accessorElements (p : Property) (element : Access → Binding → List Command → Element)
    (a : Accessor) : List Element :=
  if a.isPresent then [element p.access ⟨p.name, nodeOf p.type⟩ (blockOf a.body)] else []

/-- The elements of a property. -/
def propertyElements (p : Property) : List Element :=
  accessorElements p .getter p.getter ++ accessorElements p .setter p.setter

/-- The binding of a parameter. -/
def bindingOf (p : Parameter) : Binding := ⟨p.name, nodeOf p.type⟩

/-- The element of a method. -/
def methodElements (m : Method) : List Element :=
  [.method m.access m.isStatic m.name (m.parameters.map bindingOf) (nodeOf m.returnType)
    (blockOf m.body)]

/-- The elements of a member. -/
def elementsOf : Member → List Element
  | .field f => fieldElements f
  | .property p => propertyElements p
  | .method m => methodElements m
  | .foreign _ _ => []

/-- The node of a class. -/
def classOf (c : ClassDecl) : ClassNode :=
  ⟨c.access = .everyone, c.name, c.members.flatMap elementsOf⟩

/-- The declarations of a list of classes. -/
def classesOf (types : List ClassDecl) : List Declaration :=
  types.map fun c => .classNode (classOf c)

/-- The declarations of a namespace. -/
def declarationsOf (n : Namespace) : List Declaration :=
  if n.name = "" then classesOf n.types else nested (dottedParts n.name) (classesOf n.types)

end TypeScript

/-! ## Runs -/

/-- The state after a walk. -/
def TypeScriptEmitter.after (s : TypeScriptEmitter) (words : ReservedWords)
    (visits : List Visit) : TypeScriptEmitter :=
  { s with
    collector :=
      s.collector.addAll (TypeScript.defectsOn words s.localNamespace s.references visits)
    references := TypeScript.referencesOn s.localNamespace s.references visits }

namespace TypeScript

/-- The action finishes with the value `v` and leaves the state that the visits lead to. -/
def Performs {α : Type} (words : ReservedWords) (action : Action α) (v : α)
    (visits : List Visit) : Prop :=
  ∀ s : TypeScriptEmitter, Emit.Runs action s v (s.after words visits)

variable {α β : Type} {words : ReservedWords} {subject : String} {v : α} {w : β}
  {visits visits' : List Visit} {sites sites' : List Site}

theorem after_after (s : TypeScriptEmitter) :
    (s.after words visits).after words visits' = s.after words (visits ++ visits') := by
  simp only [TypeScriptEmitter.after, defectsOn_append, referencesOn_append,
    Collector.addAll_append]

theorem after_nil (s : TypeScriptEmitter) : s.after words [] = s := rfl

namespace Performs

variable {action : Action α} {next : α → Action β}

theorem pure (v : α) : Performs words (Pure.pure v : Action α) v [] :=
  fun s => Emit.runs_pure v s

theorem bind (first : Performs words action v visits)
    (second : Performs words (next v) w visits') :
    Performs words (action >>= next) w (visits ++ visits') := by
  intro s
  rw [← after_after]
  exact (first s).bind (second _)

/-- What is made of the value at the end. -/
theorem ret (f : α → β) (run : Performs words action v visits) :
    Performs words (action >>= fun x => Pure.pure (f x)) (f v) visits := by
  intro s
  rw [bind_pure_comp]
  exact (run s).map f

end Performs

/-! ## Primitive actions -/

/-- The state after one site. -/
theorem after_site (s : TypeScriptEmitter) (site : Site) :
    s.after words (visitsOf subject [site]) =
      { s with
        collector := s.collector.addAll
          ((causeAt words s.localNamespace s.references site).map (⟨·, subject⟩)).toList
        references := referencesAt s.localNamespace s.references site } := by
  simp [TypeScriptEmitter.after, visitsOf, defectsOn, referencesOn]

theorem runs_report (cause : Cause) (s : TypeScriptEmitter) :
    Emit.Runs (report cause subject) s ()
      { s with collector := s.collector.addAll [⟨cause, subject⟩] } :=
  Emit.runs_modify _ s

theorem performs_report_foreign (kind : String) :
    Performs words (report (.unsupportedKind kind) subject) ()
      (visitsOf subject [.foreign kind]) := by
  intro s
  rw [after_site]
  exact runs_report _ s

theorem performs_checkIdentifier (name : String) :
    Performs words (checkIdentifier name subject) () (visitsOf subject [.member name]) := by
  intro s
  rw [after_site]
  unfold checkIdentifier
  by_cases valid : isIdentifier name
  · simp only [valid, causeAt, if_true]
    exact Emit.runs_pure _ s
  · simp only [valid, causeAt]
    exact runs_report _ s

theorem performs_checkBinding (name : String) :
    Performs words (checkBinding (.ok words) name subject) ()
      (visitsOf subject [.binding name]) := by
  intro s
  rw [after_site]
  unfold checkBinding checkIdentifier
  by_cases valid : isIdentifier name
  · refine Emit.Runs.bind (show Emit.Runs _ s () s from ?_) ?_
    · rw [if_pos valid]
      exact Emit.runs_pure _ s
    · rw [if_pos valid]
      refine (Emit.runs_isReserved words .typescript name s).bind ?_
      by_cases reserved : words.contains .typescript name
      · simp only [causeAt, nameCause, valid, reserved, if_true]
        exact runs_report _ s
      · simp only [causeAt, nameCause, valid, reserved, if_true]
        exact Emit.runs_pure _ s
  · simp only [causeAt, nameCause, valid]
    exact (runs_report _ s).bind (Emit.runs_pure _ _)

theorem performs_checkBindings : ∀ names : List String,
    Performs words (checkBindings (.ok words) subject names) ()
      (visitsOf subject (names.map .binding))
  | [] => Performs.pure ()
  | name :: rest => by
    rw [checkBindings, List.map_cons, visitsOf_cons]
    exact (performs_checkBinding name).bind (performs_checkBindings rest)

theorem performs_referenceType (fullName : String) :
    Performs words (referenceType subject fullName) (simpleName fullName)
      (visitsOf subject [.type fullName]) := by
  intro s
  rw [after_site]
  unfold referenceType
  refine (Emit.runs_get s).bind ?_
  by_cases imported : isImported s.localNamespace fullName
  · have kept : (!(namespaceOf fullName = "" || namespaceOf fullName = s.localNamespace)) = true :=
      imported
    rw [if_pos kept]
    simp only [causeAt, referencesAt, imported, if_true]
    refine (Emit.runs_set s { s with references := (s.references.referTo fullName).1 }).bind ?_
    cases (s.references.referTo fullName).2 with
    | some previous => exact (runs_report _ _).bind (Emit.runs_pure _ _)
    | none => exact Emit.runs_pure _ _
  · have kept : ¬ (!(namespaceOf fullName = "" || namespaceOf fullName = s.localNamespace)) = true :=
      imported
    rw [if_neg kept]
    simp only [causeAt, referencesAt, imported]
    exact Emit.runs_pure _ _

/-! ## Types and expressions -/

mutual

theorem performs_typeNode : ∀ type : TypeRef,
    Performs words (typeNode subject type) (nodeOf type) (visitsOf subject type.sites)
  | .mk fullName arguments => by
    unfold typeNode nodeOf TypeRef.sites
    by_cases isKeyword : keywordTypes.contains (typeScriptTypeName fullName)
    · simp only [if_pos isKeyword]
      exact Performs.pure _
    · simp only [if_neg isKeyword]
      rw [visitsOf_cons]
      exact (performs_referenceType fullName).bind ((performs_typeNodes arguments).ret _)

theorem performs_typeNodes : ∀ types : List TypeRef,
    Performs words (typeNodes subject types) (nodesOf types) (visitsOf subject (typeSites types))
  | [] => by
    rw [typeNodes, nodesOf, typeSites]
    exact Performs.pure _
  | type :: rest => by
    rw [typeNodes, nodesOf, typeSites, visitsOf_append]
    exact (performs_typeNode type).bind ((performs_typeNodes rest).ret _)

end

theorem performs_literal : ∀ value : Literal,
    Performs words (literal subject value) (literalTerm value) (visitsOf subject value.sites)
  | .null | .bool _ | .text _ => Performs.pure _
  | .number value => by
    intro s
    rw [literal, literalTerm, Literal.sites, after_site]
    by_cases finite : value.isFinite
    · simp only [finite, causeAt, numberCause, if_true, Bool.not_true, Bool.false_eq_true, if_false]
      by_cases negative : value.isNegative
      · simp only [if_pos negative]
        exact Emit.runs_pure _ s
      · simp only [if_neg negative]
        exact Emit.runs_pure _ s
    · simp only [Bool.not_eq_true] at finite
      simp only [finite, causeAt, numberCause, Bool.not_false, if_true]
      exact (runs_report _ s).bind (Emit.runs_pure _ _)

mutual

theorem performs_expression : ∀ e : Expr,
    Performs words (expression (.ok words) subject e) (termOf e) (visitsOf subject e.sites)
  | .literal value => by
    rw [expression, termOf, Expr.sites]
    exact performs_literal value
  | .this => by
    rw [expression, termOf, Expr.sites]
    exact Performs.pure _
  | .field target name | .property target name => by
    rw [expression, termOf, Expr.sites, visitsOf_cons]
    exact (performs_checkIdentifier name).bind ((performs_expression target).ret _)
  | .variableRef name | .argumentRef name => by
    rw [expression, termOf, Expr.sites]
    exact (performs_checkBinding name).ret _
  | .typeName type => by
    rw [expression, termOf, Expr.sites]
    exact (performs_referenceType type.name).ret _
  | .create type arguments => by
    rw [expression, termOf, Expr.sites, visitsOf_cons, visitsOf_append]
    exact (performs_referenceType type.name).bind
      ((performs_typeNodes type.arguments).bind ((performs_expressions arguments).ret _))
  | .invoke target method arguments => by
    rw [expression, termOf, Expr.sites, visitsOf_cons, visitsOf_append]
    exact (performs_checkIdentifier method).bind
      ((performs_expression target).bind ((performs_expressions arguments).ret _))
  | .binary left operator right => by
    rw [expression, termOf, Expr.sites, visitsOf_append]
    exact (performs_expression left).bind ((performs_expression right).ret _)
  | .foreign node => by
    rw [expression, termOf, Expr.sites]
    exact (performs_report_foreign node.kind).ret _

theorem performs_expressions : ∀ es : List Expr,
    Performs words (expressions (.ok words) subject es) (termsOf es)
      (visitsOf subject (exprSites es))
  | [] => by
    rw [expressions, termsOf, exprSites]
    exact Performs.pure _
  | e :: rest => by
    rw [expressions, termsOf, exprSites, visitsOf_append]
    exact (performs_expression e).bind ((performs_expressions rest).ret _)

end

theorem performs_optionalExpression : ∀ value : Option Expr,
    Performs words (optionalExpression (.ok words) subject value) (value.map termOf)
      (visitsOf subject (optionSites value))
  | none => Performs.pure _
  | some e => by
    rw [optionalExpression, optionSites]
    exact (performs_expression e).ret _

/-! ## Statements -/

mutual

theorem performs_statement : ∀ s : Stmt,
    Performs words (statement (.ok words) subject s) (commandsOf s) (visitsOf subject s.sites)
  | .declare type name value => by
    rw [statement, commandsOf, Stmt.sites, visitsOf_cons, visitsOf_append]
    exact (performs_checkBinding name).bind
      ((performs_typeNode type).bind ((performs_optionalExpression value).ret _))
  | .assign left right => by
    rw [statement, commandsOf, Stmt.sites, visitsOf_append]
    exact (performs_expression left).bind ((performs_expression right).ret _)
  | .condition test whenTrue whenFalse => by
    rw [statement, commandsOf, Stmt.sites, visitsOf_append, visitsOf_append]
    exact (performs_expression test).bind
      ((performs_statements whenTrue).bind ((performs_statements whenFalse).ret _))
  | .returns value => by
    rw [statement, commandsOf, Stmt.sites]
    exact (performs_optionalExpression value).ret _
  | .expression value => by
    rw [statement, commandsOf, Stmt.sites]
    exact (performs_expression value).ret _
  | .foreign node => by
    rw [statement, commandsOf, Stmt.sites]
    exact (performs_report_foreign node.kind).ret _

theorem performs_statements : ∀ body : List Stmt,
    Performs words (statements (.ok words) subject body) (blockOf body)
      (visitsOf subject (stmtSites body))
  | [] => by
    rw [statements, blockOf, stmtSites]
    exact Performs.pure _
  | s :: rest => by
    rw [statements, blockOf, stmtSites, visitsOf_append]
    exact (performs_statement s).bind ((performs_statements rest).ret _)

end

/-! ## Members -/

theorem performs_field (owner : String) (f : Field) :
    Performs words (field (.ok words) owner f) (fieldElements f)
      (visitsOf (memberSubject owner f.name) f.sites) := by
  rw [Field.sites, visitsOf_cons, visitsOf_append]
  exact (performs_checkIdentifier f.name).bind
    ((performs_typeNode f.type).bind ((performs_optionalExpression f.initializer).ret _))

theorem performs_accessor (p : Property) (element : Access → Binding → List Command → Element)
    (a : Accessor) :
    Performs words (accessor (.ok words) subject p element a) (accessorElements p element a)
      (visitsOf subject (a.sites p.type)) := by
  unfold accessor accessorElements Accessor.sites
  by_cases present : a.isPresent
  · simp only [if_pos present]
    rw [visitsOf_append]
    exact (performs_typeNode p.type).bind ((performs_statements a.body).ret _)
  · simp only [if_neg present]
    exact Performs.pure _

theorem performs_property (owner : String) (p : Property) :
    Performs words (property (.ok words) owner p) (propertyElements p)
      (visitsOf (memberSubject owner p.name) p.sites) := by
  rw [Property.sites, visitsOf_cons, visitsOf_append]
  exact (performs_checkIdentifier p.name).bind
    ((performs_accessor p .getter p.getter).bind ((performs_accessor p .setter p.setter).ret _))

theorem performs_parameters : ∀ ps : List Parameter,
    Performs words (parameters (.ok words) subject ps) (ps.map bindingOf)
      (visitsOf subject (ps.flatMap Parameter.sites))
  | [] => Performs.pure _
  | p :: rest => by
    rw [parameters, List.map_cons, List.flatMap_cons, visitsOf_append, Parameter.sites,
      visitsOf_cons, List.append_assoc]
    exact (performs_checkBinding p.name).bind
      ((performs_typeNode p.type).bind ((performs_parameters rest).ret _))

theorem performs_method (owner : String) (m : Method) :
    Performs words (method (.ok words) owner m) (methodElements m)
      (visitsOf (memberSubject owner m.name) m.sites) := by
  rw [Method.sites, visitsOf_cons, visitsOf_append, visitsOf_append]
  exact (performs_checkIdentifier m.name).bind ((performs_parameters m.parameters).bind
    ((performs_typeNode m.returnType).bind ((performs_statements m.body).ret _)))

theorem performs_member (owner : String) : ∀ m : Member,
    Performs words (member (.ok words) owner m) (elementsOf m) (m.visits owner)
  | .field f => performs_field owner f
  | .property p => performs_property owner p
  | .method m => performs_method owner m
  | .foreign _ node => (performs_report_foreign node.kind).ret _

theorem performs_members (owner : String) : ∀ ms : List Member,
    Performs words (members (.ok words) owner ms) (ms.flatMap elementsOf)
      (ms.flatMap (Member.visits owner))
  | [] => Performs.pure _
  | m :: rest => by
    rw [members, List.flatMap_cons, List.flatMap_cons]
    exact (performs_member owner m).bind ((performs_members owner rest).ret _)

/-! ## Classes and namespaces -/

theorem performs_classNode (c : ClassDecl) :
    Performs words (classNode (.ok words) c) (classOf c) c.visits :=
  (performs_checkBinding c.name).bind ((performs_members c.name c.members).ret _)

theorem performs_classNodes : ∀ types : List ClassDecl,
    Performs words (classNodes (.ok words) types) (classesOf types)
      (types.flatMap ClassDecl.visits)
  | [] => Performs.pure _
  | c :: rest => by
    rw [classNodes, List.flatMap_cons]
    exact (performs_classNode c).bind ((performs_classNodes rest).ret _)

theorem performs_classNodes_singleton (c : ClassDecl) :
    Performs words (classNodes (.ok words) [c]) (classesOf [c]) c.visits := by
  rw [← List.flatMap_singleton ClassDecl.visits c]
  exact performs_classNodes [c]

/-- **What a namespace becomes in TypeScript**: its declarations, after a walk through the classes
and then the parts of its name. -/
theorem performs_namespaceNodes (n : Namespace) :
    Performs words (namespaceNodes (.ok words) n) (declarationsOf n)
      n.declarationVisits := by
  unfold namespaceNodes declarationsOf Namespace.declarationVisits
  refine (performs_classNodes n.types).bind ?_
  by_cases unnamed : n.name = ""
  · simp only [if_pos unnamed, Namespace.nameVisits]
    exact Performs.pure _
  · simp only [if_neg unnamed, Namespace.nameVisits]
    exact (performs_checkBindings (dottedParts n.name)).ret _

/-! ## Emissions -/

/-- An emission begins with a fresh state, of which only the modules are old, and gives out what its
action leaves there. -/
theorem run_emit {action : Action (List Declaration)} {body : List Declaration}
    (performs : Performs words action body visits) (localNamespace : String)
    (emitter : TypeScriptEmitter) :
    (TypeScriptEmitter.emit localNamespace action).run emitter =
      (outcome
        (.ok (moduleText ((referencesOn localNamespace [] visits).imports emitter.modules) body))
        (Collector.empty.addAll (defectsOn words localNamespace [] visits)),
        TypeScriptEmitter.after { modules := emitter.modules, localNamespace } words visits) := by
  have run := performs { modules := emitter.modules, localNamespace }
  unfold Emit.Runs at run
  simp only [TypeScriptEmitter.emit, StateT.run_bind, StateT.run_modify, StateT.run_get, pure_bind,
    run]
  rfl

/-- An emission gives a text if its action meets no defect. -/
theorem outcome_emit {action : Action (List Declaration)} {body : List Declaration}
    (performs : Performs words action body visits) (localNamespace : String)
    (emitter : TypeScriptEmitter) :
    ((TypeScriptEmitter.emit localNamespace action).run emitter).1 =
      if defectsOn words localNamespace [] visits = [] then
        .ok (moduleText ((referencesOn localNamespace [] visits).imports emitter.modules) body)
      else .error (.rejected
        (Collector.empty.addAll (defectsOn words localNamespace [] visits)).defects) := by
  rw [run_emit performs]
  exact outcome_addAll _ _

/-- A new emitter gives a text if its action meets no defect. -/
theorem text_of_clean {action : Action (List Declaration)} {body : List Declaration}
    (performs : Performs words action body visits) (localNamespace : String)
    {imports : List Import} (clean : defectsOn words localNamespace [] visits = [])
    (imported : (referencesOn localNamespace [] visits).imports [] = imports) :
    ((TypeScriptEmitter.emit localNamespace action).run {}).1 =
      .ok (moduleText imports body) := by
  have outcome := outcome_emit performs localNamespace {}
  rw [if_pos clean] at outcome
  rw [outcome, ← imported]

/-- What it is refused with is what the collector keeps of the defects that its action meets. -/
theorem reports_emit {action : Action (List Declaration)} {body : List Declaration}
    (performs : Performs words action body visits) (localNamespace : String)
    (emitter : TypeScriptEmitter) :
    reports ((TypeScriptEmitter.emit localNamespace action).run emitter).1 =
      (Collector.empty.addAll (defectsOn words localNamespace [] visits)).defects := by
  rw [run_emit performs]
  exact reports_outcome _ _

end TypeScript

end ServiceWriter

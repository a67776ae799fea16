import ServiceWriter.Proofs.TypeScript.Imports
import ServiceWriter.Proofs.TypeScript.Parts

/-!
# Where types stand

A type stands where a member or a local variable is declared, and among the arguments of a created
type; from there its own arguments are printed, unless it is printed as a keyword. Every type that is
printed otherwise is printed by its simple name, with its arguments, and imported if it must be
(`printsType_nodeOf`).

Whether a type is printed as a keyword is decided on the name that would be printed. So a type of
any namespace is printed as a keyword if its simple name is one: it loses its arguments, and is not
imported (`emission_keeps_types`).
-/

set_option autoImplicit false

namespace ServiceWriter

open Text

/-! ## In a tree -/

mutual

/-- A type and the types behind it that are printed: its arguments, at whatever depth, but none of a
type that is printed as a keyword. -/
def TypeRef.printedParts : TypeRef → List TypeRef
  | .mk fullName arguments =>
    .mk fullName arguments ::
      (if TypeScript.keywordTypes.contains (typeScriptTypeName fullName) then []
      else printedTypeParts arguments)

/-- The parts of a list of types that are printed. -/
def printedTypeParts : List TypeRef → List TypeRef
  | [] => []
  | type :: rest => type.printedParts ++ printedTypeParts rest

end

/-- The arguments of the type that an expression itself creates an object of. -/
def Expr.typeArguments : Expr → List TypeRef
  | .create type _ => type.arguments
  | _ => []

/-- The types of a class, wherever one stands. -/
def ClassDecl.standingTypes (c : ClassDecl) : List TypeRef :=
  c.memberTypes ++ c.variableTypes ++ c.expressions.flatMap Expr.typeArguments

/-- The types of a class with the parts of them that are printed. -/
def ClassDecl.printedTypes (c : ClassDecl) : List TypeRef :=
  c.standingTypes.flatMap TypeRef.printedParts

namespace TypeScript

/-! ## In a text -/

mutual

/-- A type and all types inside it. A type that also admits `null` is not another type. -/
def TypeNode.parts : TypeNode → List TypeNode
  | .keyword name => [.keyword name]
  | .reference name arguments => .reference name arguments :: nodeParts arguments
  | .orNull type => type.parts

/-- The parts of a list of types. -/
def nodeParts : List TypeNode → List TypeNode
  | [] => []
  | node :: rest => node.parts ++ nodeParts rest

end

/-- The types that an element is declared with. -/
def Element.ownTypes : Element → List TypeNode
  | .field _ _ binding _ | .getter _ binding _ | .setter _ binding _ => [binding.type]
  | .method _ _ _ parameters returnType _ => parameters.map Binding.type ++ [returnType]

/-- The arguments of the type that a term itself creates an object of. -/
def Term.typeArguments : Term → List TypeNode
  | .create _ typeArguments _ => typeArguments
  | _ => []

/-- The types of a class, wherever one stands, with all types inside them. -/
def ClassNode.types (node : ClassNode) : List TypeNode :=
  (node.elements.flatMap Element.ownTypes ++
    (node.elements.flatMap fun element => (commandParts element.commands).flatMap Command.ownTypes) ++
    node.terms.flatMap Term.typeArguments).flatMap TypeNode.parts

/-! ## From tree to text -/

mutual

theorem parts_nodeOf : ∀ type : TypeRef, (nodeOf type).parts = type.printedParts.map nodeOf
  | .mk fullName arguments => by
    rw [nodeOf, TypeRef.printedParts, List.map_cons, nodeOf]
    by_cases isKeyword : keywordTypes.contains (typeScriptTypeName fullName)
    · simp only [if_pos isKeyword, TypeNode.parts, List.map_nil]
    · simp only [if_neg isKeyword, TypeNode.parts, nodeParts_nodesOf arguments]

theorem nodeParts_nodesOf : ∀ types : List TypeRef,
    nodeParts (nodesOf types) = (printedTypeParts types).map nodeOf
  | [] => rfl
  | type :: rest => by
    rw [nodesOf, nodeParts, printedTypeParts, List.map_append, parts_nodeOf type,
      nodeParts_nodesOf rest]

end

theorem skipsAdded_typeArguments : SkipsAdded Term.typeArguments where
  parenthesised _ := rfl
  access _ _ := rfl

theorem typeArguments_termOf (e : Expr) :
    (termOf e).typeArguments = e.typeArguments.map nodeOf := by
  cases e with
  | literal value =>
    cases value with
    | number value =>
      simp only [termOf, literalTerm]
      split
      · rfl
      · split <;> rfl
    | null | bool _ | text _ => rfl
  | create type arguments => exact nodesOf_eq_map type.arguments
  | _ => rfl

theorem flatMap_parts_map_nodeOf (types : List TypeRef) :
    (types.map nodeOf).flatMap TypeNode.parts =
      (types.flatMap TypeRef.printedParts).map nodeOf := by
  rw [List.flatMap_map, List.map_flatMap]
  exact List.flatMap_congr fun type _ => parts_nodeOf type

theorem ownTypes_accessorElements (p : Property) (a : Accessor)
    {element : Access → Binding → List Command → Element}
    (own : ∀ access binding body, (element access binding body).ownTypes = [binding.type]) :
    (accessorElements p element a).flatMap Element.ownTypes =
      (if a.isPresent then [p.type] else []).map nodeOf := by
  unfold accessorElements
  split
  · rw [List.flatMap_singleton, own]
    rfl
  · rfl

/-- The types that a member is declared with. Only the type of a field may get `null` besides. -/
theorem ownTypes_elementsOf (m : Member) :
    ((elementsOf m).flatMap Element.ownTypes).flatMap TypeNode.parts =
      (m.ownTypes.flatMap TypeRef.printedParts).map nodeOf := by
  cases m with
  | field f =>
    rw [elementsOf, fieldElements, List.flatMap_singleton, Element.ownTypes, Member.ownTypes,
      List.flatMap_singleton, List.flatMap_singleton, ← parts_nodeOf]
    split <;> rfl
  | property p =>
    rw [elementsOf, propertyElements, List.flatMap_append,
      ownTypes_accessorElements p p.getter fun _ _ _ => rfl,
      ownTypes_accessorElements p p.setter fun _ _ _ => rfl, ← List.map_append]
    exact flatMap_parts_map_nodeOf _
  | method m =>
    rw [elementsOf, methodElements, List.flatMap_singleton, Element.ownTypes, Member.ownTypes,
      ← flatMap_parts_map_nodeOf, List.map_append, List.map_map, List.map_map]
    rfl
  | foreign name node => rfl

theorem variableTypes_accessorElements (p : Property) (a : Accessor)
    {element : Access → Binding → List Command → Element}
    (commands : ∀ access binding body, (element access binding body).commands = body) :
    (accessorElements p element a).flatMap
        (fun element => (commandParts element.commands).flatMap Command.ownTypes) =
      ((stmtParts a.statements).flatMap Stmt.ownTypes).map nodeOf := by
  unfold accessorElements Accessor.statements
  split
  · rw [List.flatMap_singleton, commands, flatMap_commandParts_blockOf flatMap_ownTypes_commandsOf,
      List.map_flatMap]
  · rfl

/-- The types of the variables of a member. -/
theorem variableTypes_elementsOf (m : Member) :
    (elementsOf m).flatMap
        (fun element => (commandParts element.commands).flatMap Command.ownTypes) =
      ((stmtParts m.statements).flatMap Stmt.ownTypes).map nodeOf := by
  cases m with
  | property p =>
    rw [elementsOf, propertyElements, List.flatMap_append,
      variableTypes_accessorElements p p.getter fun _ _ _ => rfl,
      variableTypes_accessorElements p p.setter fun _ _ _ => rfl, ← List.map_append,
      ← List.flatMap_append, ← stmtParts_append]
    rfl
  | method m =>
    rw [elementsOf, methodElements, List.flatMap_singleton, Member.statements, List.map_flatMap]
    exact flatMap_commandParts_blockOf flatMap_ownTypes_commandsOf m.body
  | field _ | foreign _ _ => rfl

/-- **The types of a class** are printed in their order, each by its node. -/
theorem types_classOf (c : ClassDecl) : (classOf c).types = c.printedTypes.map nodeOf := by
  have members : ((classOf c).elements.flatMap Element.ownTypes).flatMap TypeNode.parts =
      (c.memberTypes.flatMap TypeRef.printedParts).map nodeOf := by
    rw [classOf, ClassDecl.memberTypes, List.flatMap_assoc, List.flatMap_assoc, List.flatMap_assoc,
      List.map_flatMap]
    refine List.flatMap_congr fun m _ => ?_
    rw [← ownTypes_elementsOf, List.flatMap_assoc]
  have locals : (classOf c).elements.flatMap
        (fun element => (commandParts element.commands).flatMap Command.ownTypes) =
      c.variableTypes.map nodeOf := by
    rw [classOf, ClassDecl.variableTypes, List.flatMap_assoc, List.map_flatMap]
    exact List.flatMap_congr fun m _ => variableTypes_elementsOf m
  have created : (classOf c).terms.flatMap Term.typeArguments =
      (c.expressions.flatMap Expr.typeArguments).map nodeOf := by
    rw [flatMap_terms_classOf skipsAdded_typeArguments, List.map_flatMap]
    exact List.flatMap_congr fun e _ => typeArguments_termOf e
  rw [ClassNode.types, ClassDecl.printedTypes, ClassDecl.standingTypes, List.flatMap_append,
    List.flatMap_append, members, locals, created, flatMap_parts_map_nodeOf,
    flatMap_parts_map_nodeOf, List.flatMap_append, List.flatMap_append, List.map_append,
    List.map_append]

/-! ## Keywords -/

/-- A type is printed as a keyword: there is one for it, or its simple name is one. -/
def PrintsKeyword (fullName : String) : Prop :=
  typeScriptKeywords.lookup fullName ≠ none ∨ simpleName fullName ∈ keywordTypes

/-- A type of some namespace is printed as a keyword that is not there for it. -/
def TakesKeyword (fullName : String) : Prop :=
  namespaceOf fullName ≠ "" ∧ typeScriptKeywords.lookup fullName = none ∧
    simpleName fullName ∈ keywordTypes

theorem contains_keywordTypes_iff (fullName : String) :
    keywordTypes.contains (typeScriptTypeName fullName) = true ↔ PrintsKeyword fullName := by
  rw [List.contains_iff_mem, typeScriptTypeName, PrintsKeyword]
  cases found : typeScriptKeywords.lookup fullName with
  | none => simp only [Option.getD_none, ne_eq, not_true_eq_false, false_or]
  | some keyword =>
    have all : ∀ entry ∈ typeScriptKeywords, entry.2 ∈ keywordTypes := by decide
    simp only [Option.getD_some, ne_eq, reduceCtorEq, not_false_eq_true, true_or, iff_true]
    exact all _ (mem_of_lookup found)

mutual

/-- Where a type is printed by its simple name, it is visited. -/
theorem mem_sites_of_mem_printedParts {part : TypeRef} (plain : ¬ PrintsKeyword part.name) :
    ∀ type : TypeRef, part ∈ type.printedParts → Site.type part.name ∈ type.sites
  | .mk fullName arguments, inside => by
    rw [TypeRef.printedParts] at inside
    rw [TypeRef.sites]
    rcases List.mem_cons.mp inside with rfl | inside
    · have isName : ¬ keywordTypes.contains (typeScriptTypeName fullName) = true :=
        fun isKeyword => plain ((contains_keywordTypes_iff fullName).mp isKeyword)
      rw [if_neg isName]
      exact List.mem_cons_self
    · by_cases isKeyword : keywordTypes.contains (typeScriptTypeName fullName)
      · rw [if_pos isKeyword] at inside
        cases inside
      · rw [if_neg isKeyword] at inside ⊢
        exact List.mem_cons_of_mem _ (mem_typeSites_of_mem_printedTypeParts plain arguments inside)

theorem mem_typeSites_of_mem_printedTypeParts {part : TypeRef} (plain : ¬ PrintsKeyword part.name) :
    ∀ types : List TypeRef, part ∈ printedTypeParts types → Site.type part.name ∈ typeSites types
  | [], inside => nomatch inside
  | type :: rest, inside => by
    rw [printedTypeParts] at inside
    rw [typeSites]
    exact List.mem_append.mpr ((List.mem_append.mp inside).imp
      (mem_sites_of_mem_printedParts plain type) (mem_typeSites_of_mem_printedTypeParts plain rest))

end

/-- A type of a class that is printed by its simple name is visited. -/
theorem exists_visit_of_printedTypes {c : ClassDecl} {type : TypeRef}
    (plain : ¬ PrintsKeyword type.name) (inside : type ∈ c.printedTypes) :
    ∃ v ∈ c.visits, v.site = .type type.name := by
  obtain ⟨whole, among, part⟩ := List.mem_flatMap.mp inside
  have visited := mem_sites_of_mem_printedParts plain whole part
  rw [ClassDecl.standingTypes, List.mem_append, List.mem_append] at among
  rcases among with (declared | bound) | created
  · exact ClassDecl.exists_visit_of_memberTypes declared visited
  · exact ClassDecl.exists_visit_of_variableTypes bound visited
  · obtain ⟨e, among, argument⟩ := List.mem_flatMap.mp created
    refine ClassDecl.exists_visit_of_expressions among ?_
    cases e with
    | create created arguments =>
      rw [Expr.sites]
      exact List.mem_cons_of_mem _ (List.mem_append_left _ (mem_typeSites argument visited))
    | _ => cases argument

/-! ## Emissions -/

section

variable (modules : Modules) (localNamespace : String) (imports : List Import)

/-- A type has its simple name imported from the module of its namespace. -/
def Imports (fullName : String) : Prop :=
  ∃ i ∈ imports, i.specifier = moduleFor modules (namespaceOf fullName) ∧
    simpleName fullName ∈ i.names

/-- How a type is printed as the node `node`. -/
structure PrintsType (type : TypeRef) (node : TypeNode) : Prop where
  keyword : PrintsKeyword type.name → node = .keyword (typeScriptTypeName type.name)
  reference : ¬ PrintsKeyword type.name →
    node = .reference (simpleName type.name) (nodesOf type.arguments)
  imported : ¬ PrintsKeyword type.name → isImported localNamespace type.name = true →
    Imports modules imports type.name

/-- A type keeps its name, its arguments and its module in the node `node`, unless there is a keyword
for it. -/
structure KeepsType (type : TypeRef) (node : TypeNode) : Prop where
  /-- A type of another namespace without a keyword is printed by its simple name, and imported. -/
  reference : isImported localNamespace type.name = true →
    typeScriptKeywords.lookup type.name = none →
      node = .reference (simpleName type.name) (nodesOf type.arguments) ∧
        Imports modules imports type.name
  /-- What is printed as a keyword has a keyword, or no namespace. -/
  keyword : ∀ name, node = .keyword name →
    typeScriptKeywords.lookup type.name ≠ none ∨ namespaceOf type.name = ""

/-- How the types of a class are printed, each at its place. -/
structure PrintsTypes (c : ClassDecl) (node : ClassNode) : Prop where
  printed : List.Forall₂ (PrintsType modules localNamespace imports) c.printedTypes node.types
  /-- All types keep name, arguments and module exactly if none of them takes a keyword that is not
  there for it. -/
  kept_iff : List.Forall₂ (KeepsType modules localNamespace imports) c.printedTypes node.types ↔
    ∀ type ∈ c.printedTypes, ¬ TakesKeyword type.name

end

variable {modules : Modules} {localNamespace : String} {imports : List Import}
  {visits : List Visit}

theorem printsType_nodeOf (settled : ImportsOf modules (Uses localNamespace visits) imports)
    {type : TypeRef}
    (visited : ¬ PrintsKeyword type.name → ∃ v ∈ visits, v.site = .type type.name) :
    PrintsType modules localNamespace imports type (nodeOf type) := by
  obtain ⟨fullName, arguments⟩ := type
  refine ⟨fun isKeyword => ?_, fun plain => ?_, fun plain imported => ?_⟩
  · rw [nodeOf, if_pos ((contains_keywordTypes_iff fullName).mpr isKeyword)]
    rfl
  · rw [nodeOf, if_neg fun isKeyword => plain ((contains_keywordTypes_iff fullName).mp isKeyword)]
    rfl
  · exact (settled.imported_iff _ _).mpr ⟨fullName, ⟨imported, visited plain⟩, rfl, rfl⟩

theorem isImported_iff (localNamespace fullName : String) :
    isImported localNamespace fullName = true ↔
      namespaceOf fullName ≠ "" ∧ namespaceOf fullName ≠ localNamespace := by
  simp [isImported]

/-- A type is kept unless it takes a keyword that is not there for it. -/
theorem PrintsType.kept_iff {type : TypeRef} {node : TypeNode}
    (prints : PrintsType modules localNamespace imports type node) :
    KeepsType modules localNamespace imports type node ↔ ¬ TakesKeyword type.name := by
  constructor
  · rintro kept ⟨named, plain, taken⟩
    exact (kept.keyword _ (prints.keyword (.inr taken))).elim (· plain) named
  · intro apart
    refine ⟨fun imported plain => ?_, fun name isKeyword => ?_⟩
    · have named := ((isImported_iff _ _).mp imported).1
      have isName : ¬ PrintsKeyword type.name := by
        rintro (found | taken)
        · exact found plain
        · exact apart ⟨named, plain, taken⟩
      exact ⟨prints.reference isName, prints.imported isName imported⟩
    · by_contra neither
      rw [not_or, not_not] at neither
      refine apart ⟨neither.2, neither.1, ?_⟩
      by_contra free
      have isName : ¬ PrintsKeyword type.name := by
        rintro (found | taken)
        · exact found neither.1
        · exact free taken
      rw [prints.reference isName] at isKeyword
      cases isKeyword

theorem printsTypes_classOf (settled : ImportsOf modules (Uses localNamespace visits) imports)
    {c : ClassDecl} (visited : ∀ v ∈ c.visits, v ∈ visits) :
    PrintsTypes modules localNamespace imports c (classOf c) := by
  have prints : ∀ type ∈ c.printedTypes,
      PrintsType modules localNamespace imports type (nodeOf type) := by
    intro type inside
    refine printsType_nodeOf settled fun plain => ?_
    obtain ⟨v, among, site⟩ := exists_visit_of_printedTypes plain inside
    exact ⟨v, visited v among, site⟩
  constructor
  · rw [types_classOf, List.forall₂_map_right_iff]
    exact List.forall₂_same.mpr prints
  · rw [types_classOf, List.forall₂_map_right_iff, List.forall₂_same]
    exact forall₂_congr fun type inside => (prints type inside).kept_iff

/-- An emission prints the types of all classes that it visits. -/
theorem Performs.printsTypes {words : ReservedWords} {action : Action (List Declaration)}
    {body : List Declaration} (performs : Performs words action body visits)
    {types : List ClassDecl} (declares : declaredClasses body = types.map classOf)
    (visited : ∀ c ∈ types, ∀ v ∈ c.visits, v ∈ visits) (localNamespace : String)
    (emitter : TypeScriptEmitter) (text : String)
    (ok : ((TypeScriptEmitter.emit localNamespace action).run emitter).1 = .ok text) :
    ∃ imports, ImportsOf emitter.modules (Uses localNamespace visits) imports ∧
      text = moduleText imports body ∧
      List.Forall₂ (PrintsTypes emitter.modules localNamespace imports) types
        (declaredClasses body) := by
  obtain ⟨imports, settled, _, printed⟩ :=
    (performs.emitsImports localNamespace emitter).imports_of_ok text ok
  refine ⟨imports, settled, printed, ?_⟩
  rw [declares, List.forall₂_map_right_iff]
  exact List.forall₂_same.mpr fun c among => printsTypes_classOf settled (visited c among)

/-- **How types are printed and imported**, in the text of a namespace and of a class alone: by the
simple name and with an import from the module of the namespace, unless the type takes a keyword. -/
theorem emission_keeps_types (words : ReservedWords) :
    (∀ (n : Namespace) (emitter : TypeScriptEmitter) (text : String),
      ((TypeScriptEmitter.emitNamespace (.ok words) n).run emitter).1 = .ok text →
      ∃ imports, ImportsOf emitter.modules (Uses n.name n.declarationVisits) imports ∧
        text = moduleText imports (declarationsOf n) ∧
        List.Forall₂ (PrintsTypes emitter.modules n.name imports) n.types
          (declaredClasses (declarationsOf n))) ∧
    ∀ (c : ClassDecl) (emitter : TypeScriptEmitter) (text : String),
      ((TypeScriptEmitter.emitType (.ok words) c).run emitter).1 = .ok text →
      ∃ imports, ImportsOf emitter.modules (Uses "" c.visits) imports ∧
        text = moduleText imports (classesOf [c]) ∧
        List.Forall₂ (PrintsTypes emitter.modules "" imports) [c]
          (declaredClasses (classesOf [c])) := by
  constructor
  · intro n
    refine (performs_namespaceNodes n).printsTypes (declaredClasses_declarationsOf n) ?_ n.name
    intro c listed v among
    exact List.mem_append_left _ (List.mem_flatMap.mpr ⟨c, listed, among⟩)
  · intro c
    refine (performs_classNodes_singleton c).printsTypes (declaredClasses_classesOf [c]) ?_ ""
    intro c' listed v among
    rwa [List.mem_singleton.mp listed] at among

/-- A class with a field of a type that has one argument. -/
def sink (type argument : String) : ClassDecl where
  name := "Sink"
  members := [.field { name := "x", type := .mk type [.plain argument] }]

/-- A type of another namespace is imported, and keeps its argument. -/
theorem emission_keeps_types_list :
    ∃ imports, ImportsOf [] (Uses "" (sink "Lib.List" "System.Int32").visits) imports ∧
      moduleText [⟨"lib", ["List"]⟩] (classesOf [sink "Lib.List" "System.Int32"]) =
        moduleText imports (classesOf [sink "Lib.List" "System.Int32"]) ∧
      List.Forall₂ (PrintsTypes [] "" imports) [sink "Lib.List" "System.Int32"]
        (declaredClasses (classesOf [sink "Lib.List" "System.Int32"])) := by
  refine (emission_keeps_types .standard).2 (sink "Lib.List" "System.Int32") {} _ ?_
  exact text_of_clean (performs_classNodes_singleton _) "" (by decide +kernel) (by decide +kernel)

/-- A type `number` of another namespace is printed as the keyword: nothing is imported, and its
argument is lost. -/
theorem emission_keeps_types_number :
    ((TypeScriptEmitter.emitType (.ok .standard) (sink "Lib.number" "Lib.Item")).run {}).1 =
        .ok "export class Sink \x7b\n    private x: number;\n\x7d\n" ∧
      (sink "Lib.number" "Lib.Item").printedTypes = [.mk "Lib.number" [.plain "Lib.Item"]] ∧
      (classOf (sink "Lib.number" "Lib.Item")).types = [.keyword "number"] ∧
      TakesKeyword "Lib.number" ∧
      ¬ KeepsType [] "" [] (.mk "Lib.number" [.plain "Lib.Item"]) (.keyword "number") := by
  have taken : TakesKeyword "Lib.number" := ⟨by decide, by decide, by decide⟩
  refine ⟨?text, rfl, rfl, taken, ?lost⟩
  case text =>
    rw [TypeScriptEmitter.emitType, text_of_clean (performs_classNodes_singleton _) ""
      (by decide +kernel) (by decide +kernel : _ = [])]
    exact congrArg Except.ok (by decide +kernel)
  case lost =>
    intro kept
    exact (kept.keyword "number" rfl).elim (· taken.2.1) taken.1

end TypeScript

end ServiceWriter

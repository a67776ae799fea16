import ServiceWriter.Proofs.TypeScript.Imports
import ServiceWriter.Proofs.TypeScript.Parts

/-!
# Names of methods, declared and called

A method is declared under the name that it has in the tree. A call of it goes by the name that the
runtime's methods have in TypeScript (`calledName`), whatever it is called on. So the calls that a
class makes on itself go by the names of the methods it declares, unless it declares and calls a
method `ToString` of its own (`emission_calls_own`).
-/

set_option autoImplicit false

namespace ServiceWriter

/-! ## In a tree -/

/-- The method that an expression itself calls on the object it belongs to. -/
def Expr.ownCalls : Expr → List String
  | .invoke .this method _ => [method]
  | _ => []

/-- The methods that a class calls on itself, at whatever depth. -/
def ClassDecl.ownCalls (c : ClassDecl) : List String := c.expressions.flatMap Expr.ownCalls

/-- The name of a method. -/
def Member.methodNames : Member → List String
  | .method m => [m.name]
  | _ => []

/-- The methods that a class declares. -/
def ClassDecl.methodNames (c : ClassDecl) : List String := c.members.flatMap Member.methodNames

namespace TypeScript

/-! ## In a text -/

/-- The method that a term itself calls on `this`. -/
def Term.ownCalls : Term → List String
  | .call (.access (.word "this") called) _ => [called]
  | _ => []

/-- The methods that a class calls on `this`, at whatever depth. -/
def ClassNode.ownCalls (node : ClassNode) : List String := node.terms.flatMap Term.ownCalls

/-- The name of a method. -/
def Element.methodNames : Element → List String
  | .method _ _ declared _ _ _ => [declared]
  | _ => []

/-- The methods that a class declares. -/
def ClassNode.methodNames (node : ClassNode) : List String :=
  node.elements.flatMap Element.methodNames

/-! ## From tree to text -/

theorem skipsAdded_ownCalls : SkipsAdded Term.ownCalls where
  parenthesised _ := rfl
  access _ _ := rfl

theorem ownCalls_literalTerm (value : Literal) : (literalTerm value).ownCalls = [] := by
  cases value with
  | number value =>
    rw [literalTerm]
    split
    · rfl
    · split <;> rfl
  | null | bool _ | text _ => rfl

/-- Only `this` becomes the word `this`. -/
theorem ownCalls_call (target : Expr) (name : String) (arguments : List Term) :
    (Term.call (.access (termOf target) name) arguments).ownCalls =
      match target with | .this => [name] | _ => [] := by
  cases target with
  | literal value =>
    cases value with
    | number value =>
      simp only [termOf, literalTerm]
      split
      · rfl
      · split <;> rfl
    | bool value => cases value <;> rfl
    | null | text _ => rfl
  | _ => rfl

theorem ownCalls_termOf (e : Expr) : (termOf e).ownCalls = e.ownCalls.map calledName := by
  cases e with
  | literal value => exact ownCalls_literalTerm value
  | invoke target method arguments =>
    rw [termOf, ownCalls_call]
    cases target <;> rfl
  | _ => rfl

/-- **A class calls its methods** by the names that they have in TypeScript. -/
theorem ownCalls_classOf (c : ClassDecl) :
    (classOf c).ownCalls = c.ownCalls.map calledName := by
  rw [ClassNode.ownCalls, flatMap_terms_classOf skipsAdded_ownCalls, ClassDecl.ownCalls,
    List.map_flatMap]
  exact List.flatMap_congr fun e _ => ownCalls_termOf e

theorem methodNames_accessorElements (p : Property) (a : Accessor)
    {element : Access → Binding → List Command → Element}
    (noMethod : ∀ access binding body, (element access binding body).methodNames = []) :
    (accessorElements p element a).flatMap Element.methodNames = [] := by
  unfold accessorElements
  split
  · rw [List.flatMap_singleton, noMethod]
  · rfl

theorem methodNames_elementsOf (m : Member) :
    (elementsOf m).flatMap Element.methodNames = m.methodNames := by
  cases m with
  | property p =>
    rw [elementsOf, propertyElements, List.flatMap_append,
      methodNames_accessorElements p p.getter fun _ _ _ => rfl,
      methodNames_accessorElements p p.setter fun _ _ _ => rfl]
    rfl
  | field _ | method _ | foreign _ _ => rfl

/-- **A class declares its methods** under the names that they have in the tree. -/
theorem methodNames_classOf (c : ClassDecl) : (classOf c).methodNames = c.methodNames := by
  rw [ClassNode.methodNames, classOf, List.flatMap_assoc]
  exact List.flatMap_congr fun m _ => methodNames_elementsOf m

/-- The one method of the runtime that has another name in TypeScript. -/
theorem calledName_eq_self_iff (method : String) :
    calledName method = method ↔ method ≠ "ToString" := by
  by_cases renamed : method = "ToString"
  · subst renamed
    decide
  · have kept : renamedMethods.lookup method = none :=
      List.lookup_eq_none_iff.mpr fun entry listed => by
        rw [renamedMethods, List.mem_singleton] at listed
        subst listed
        exact bne_iff_ne.mpr renamed
    simp only [calledName, kept, Option.getD_none, ne_eq, renamed, not_false_eq_true]

/-! ## Emissions -/

/-- Each call of an own method goes by the name that the method is declared under: of a call and a
declaration that have one name in the tree, the names in the text are the same. -/
def CallsAsDeclared (c : ClassDecl) (node : ClassNode) : Prop :=
  ∀ call ∈ c.ownCalls.zip node.ownCalls, ∀ method ∈ c.methodNames.zip node.methodNames,
    call.1 = method.1 → call.2 = method.2

/-- What a text makes of the methods of a class. -/
structure NamesMethods (c : ClassDecl) (node : ClassNode) : Prop where
  /-- They are declared under their own names. -/
  declared : node.methodNames = c.methodNames
  /-- They are called by the names that the runtime's methods have in TypeScript. -/
  called : node.ownCalls = c.ownCalls.map calledName
  /-- These are the same unless the class declares and calls a method `ToString`. -/
  calls_iff : CallsAsDeclared c node ↔ ¬ ("ToString" ∈ c.methodNames ∧ "ToString" ∈ c.ownCalls)

theorem zip_map_self {α β : Type} (l : List α) (f : α → β) :
    l.zip (l.map f) = l.map fun x => (x, f x) := by
  have zipped : (l.map id).zip (l.map f) = l.map fun x => (id x, f x) := List.zip_map'
  rwa [List.map_id] at zipped

theorem callsAsDeclared_iff (c : ClassDecl) :
    CallsAsDeclared c (classOf c) ↔
      ∀ method ∈ c.ownCalls, method ∈ c.methodNames → calledName method = method := by
  have calls : c.ownCalls.zip (classOf c).ownCalls = c.ownCalls.map fun m => (m, calledName m) := by
    rw [ownCalls_classOf]
    exact zip_map_self c.ownCalls calledName
  have methods : c.methodNames.zip (classOf c).methodNames = c.methodNames.map fun m => (m, m) := by
    rw [methodNames_classOf]
    have zipped := zip_map_self c.methodNames id
    rwa [List.map_id] at zipped
  rw [CallsAsDeclared, calls, methods]
  simp only [List.forall_mem_map]
  constructor
  · exact fun alike method called declared => alike method called method declared rfl
  · intro kept method called other declared same
    subst same
    exact kept method called declared

theorem namesMethods_classOf (c : ClassDecl) : NamesMethods c (classOf c) := by
  refine ⟨methodNames_classOf c, ownCalls_classOf c, (callsAsDeclared_iff c).trans ?_⟩
  simp only [calledName_eq_self_iff]
  constructor
  · rintro kept ⟨declared, called⟩
    exact kept "ToString" called declared rfl
  · rintro apart method called declared rfl
    exact apart ⟨declared, called⟩

/-- What is emitted of some classes is a text of nodes that name their methods. -/
theorem Performs.namesMethods {words : ReservedWords} {visits : List Visit}
    {action : Action (List Declaration)} {body : List Declaration}
    (performs : Performs words action body visits) {types : List ClassDecl}
    (declares : declaredClasses body = types.map classOf) (localNamespace : String)
    (emitter : TypeScriptEmitter) (text : String)
    (ok : ((TypeScriptEmitter.emit localNamespace action).run emitter).1 = .ok text) :
    ∃ imports, text = moduleText imports body ∧
      List.Forall₂ NamesMethods types (declaredClasses body) := by
  obtain ⟨imports, _, _, printed⟩ :=
    (performs.emitsImports localNamespace emitter).imports_of_ok text ok
  refine ⟨imports, printed, ?_⟩
  rw [declares, List.forall₂_map_right_iff]
  exact List.forall₂_same.mpr fun c _ => namesMethods_classOf c

/-- **Own methods in a text**, of a namespace and of a class alone: each is declared under its own
name, and the calls of it go by that name unless the class declares and calls a method `ToString`. -/
theorem emission_calls_own (words : ReservedWords) :
    (∀ (n : Namespace) (emitter : TypeScriptEmitter) (text : String),
      ((TypeScriptEmitter.emitNamespace (.ok words) n).run emitter).1 = .ok text →
      ∃ imports, text = moduleText imports (declarationsOf n) ∧
        List.Forall₂ NamesMethods n.types (declaredClasses (declarationsOf n))) ∧
    ∀ (c : ClassDecl) (emitter : TypeScriptEmitter) (text : String),
      ((TypeScriptEmitter.emitType (.ok words) c).run emitter).1 = .ok text →
      ∃ imports, text = moduleText imports (classesOf [c]) ∧
        List.Forall₂ NamesMethods [c] (declaredClasses (classesOf [c])) :=
  ⟨fun n => (performs_namespaceNodes n).namesMethods (declaredClasses_declarationsOf n) n.name,
    fun c => (performs_classNodes_singleton c).namesMethods (declaredClasses_classesOf [c]) ""⟩

/-- A class with a method of the name `method`, and another one that calls it. -/
def labelled (method : String) : ClassDecl where
  name := "Label"
  members := [
    .method
      { name := method, access := .everyone, returnType := .plain "System.String"
        body := [.returns (some (.literal (.text "label")))] },
    .method
      { name := "Text", access := .everyone, returnType := .plain "System.String"
        body := [.returns (some (.invoke .this method []))] }]

/-- A method that the runtime does not know is called as it is declared. -/
theorem emission_calls_own_describe :
    ∃ imports, moduleText [] (classesOf [labelled "Describe"]) =
        moduleText imports (classesOf [labelled "Describe"]) ∧
      List.Forall₂ NamesMethods [labelled "Describe"]
        (declaredClasses (classesOf [labelled "Describe"])) := by
  refine (emission_calls_own .standard).2 (labelled "Describe") {} _ ?_
  exact text_of_clean (performs_classNodes_singleton _) "" (by decide +kernel) (by decide +kernel)

/-- A method `ToString` is declared under this name and called by another one. -/
theorem emission_calls_own_toString :
    ((TypeScriptEmitter.emitType (.ok .standard) (labelled "ToString")).run {}).1 =
        .ok ("export class Label \x7b\n" ++
          "    public ToString(): string \x7b\n        return \"label\";\n    \x7d\n" ++
          "    public Text(): string \x7b\n        return this.toString();\n    \x7d\n\x7d\n") ∧
      (classOf (labelled "ToString")).methodNames = ["ToString", "Text"] ∧
      (labelled "ToString").ownCalls = ["ToString"] ∧
      (classOf (labelled "ToString")).ownCalls = ["toString"] ∧
      ¬ CallsAsDeclared (labelled "ToString") (classOf (labelled "ToString")) := by
  refine ⟨?text, rfl, rfl, rfl, ?calls⟩
  case text =>
    rw [TypeScriptEmitter.emitType, text_of_clean (performs_classNodes_singleton _) ""
      (by decide +kernel) (by decide +kernel : _ = [])]
    exact congrArg Except.ok (by decide +kernel)
  case calls =>
    intro alike
    exact absurd (alike ("ToString", "toString") (by decide) ("ToString", "ToString") (by decide) rfl)
      (by decide)

end TypeScript

end ServiceWriter

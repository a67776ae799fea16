import ServiceWriter.Proofs.TypeScript.Imports
import ServiceWriter.Proofs.Walk.Clean

/-!
# What the printed names of types stand for

TypeScript text refers to a type by its simple name alone. The text is faithful if such a name
stands for one type, and no import takes the name of a class that is declared (`IsFaithful`). An
emission looks at this among the types that it imports: it refuses two of them with one simple name,
and accepts whatever is clean otherwise. Types of the emitted namespace, types without a namespace
and the classes that are declared are not compared with anything. So a text is faithful exactly if
these happen to keep apart (`emission_binds`).
-/

set_option autoImplicit false

namespace ServiceWriter.TypeScript

open Text

/-! ## Names that a text declares -/

mutual

/-- The names of the classes in a declaration. -/
def Declaration.classNames : Declaration → List String
  | .classNode node => [node.name]
  | .space _ body => declaredNames body

/-- The names of the classes that are declared. -/
def declaredNames : List Declaration → List String
  | [] => []
  | d :: rest => d.classNames ++ declaredNames rest

end

theorem declaredNames_classesOf (types : List ClassDecl) :
    declaredNames (classesOf types) = types.map ClassDecl.name := by
  induction types with
  | nil => rfl
  | cons c rest ih => exact congrArg (c.name :: ·) ih

theorem declaredNames_nested (body : List Declaration) (parts : List String) :
    declaredNames (nested parts body) = declaredNames body := by
  induction parts with
  | nil => rfl
  | cons part rest ih =>
    rw [← ih]
    exact List.append_nil _

/-- A namespace declares its classes. -/
theorem declaredNames_declarationsOf (n : Namespace) :
    declaredNames (declarationsOf n) = n.types.map ClassDecl.name := by
  unfold declarationsOf
  split
  · exact declaredNames_classesOf n.types
  · rw [declaredNames_nested, declaredNames_classesOf]

/-! ## Faithful texts -/

/-- Whether a type is printed by its simple name, and the name is no keyword. -/
def Prints (visits : List Visit) (fullName : String) : Prop :=
  (∃ v ∈ visits, v.site = .type fullName) ∧ simpleName fullName ∉ keywordTypes

/-- The names in a text stand for the types that were referred to. -/
structure IsFaithful (visits : List Visit) (imports : List Import) (declared : List String) :
    Prop where
  /-- Types that are printed alike are the same. -/
  same_of_name : ∀ first second, Prints visits first → Prints visits second →
    simpleName first = simpleName second → first = second
  /-- No import has the name of a class that is declared. -/
  import_apart : ∀ i ∈ imports, ∀ name ∈ i.names, name ∉ declared

/-- What is not imported keeps apart from the rest. -/
structure LocalsApart (localNamespace : String) (visits : List Visit) (declared : List String) :
    Prop where
  /-- A type that is not imported shares its printed name with no other type. -/
  same_of_name : ∀ first second, Prints visits first → Prints visits second →
    isImported localNamespace first = false → simpleName first = simpleName second → first = second
  /-- A class that is declared has the name of no type that is imported. -/
  class_apart : ∀ fullName, Uses localNamespace visits fullName → simpleName fullName ∉ declared

variable {localNamespace : String} {visits : List Visit} {modules : Modules}
  {imports : List Import} {declared : List String}

/-- The imported names are the simple names of the types in use. -/
theorem ImportsOf.exists_name_iff {used : String → Prop} (settled : ImportsOf modules used imports)
    {name : String} :
    (∃ i ∈ imports, name ∈ i.names) ↔ ∃ fullName, used fullName ∧ simpleName fullName = name := by
  constructor
  · rintro ⟨i, listed, inside⟩
    obtain ⟨fullName, inUse, named, _⟩ :=
      (settled.imported_iff name i.specifier).mp ⟨i, listed, rfl, inside⟩
    exact ⟨fullName, inUse, named⟩
  · rintro ⟨fullName, inUse, named⟩
    obtain ⟨i, listed, _, inside⟩ :=
      (settled.imported_iff name _).mpr ⟨fullName, inUse, named, rfl⟩
    exact ⟨i, listed, inside⟩

/-- With no conflict among the imported types, the text is faithful exactly if the rest keeps
apart. -/
theorem isFaithful_iff (settled : ImportsOf modules (Uses localNamespace visits) imports)
    (apart : ¬ Conflict (Uses localNamespace visits)) :
    IsFaithful visits imports declared ↔ LocalsApart localNamespace visits declared := by
  constructor
  · intro faithful
    refine ⟨fun first second prints prints' _ => faithful.same_of_name first second prints prints',
      fun fullName inUse among => ?_⟩
    obtain ⟨i, listed, inside⟩ := settled.exists_name_iff.mpr ⟨fullName, inUse, rfl⟩
    exact faithful.import_apart i listed _ inside among
  · intro locals
    refine ⟨?same, ?imports⟩
    case same =>
      intro first second prints prints' same
      cases imported : isImported localNamespace first with
      | false => exact locals.same_of_name first second prints prints' imported same
      | true =>
        cases imported' : isImported localNamespace second with
        | false => exact (locals.same_of_name second first prints' prints imported' same.symm).symm
        | true =>
          by_contra differ
          exact apart
            ⟨first, second, ⟨imported, prints.1⟩, ⟨imported', prints'.1⟩, same, differ⟩
    case imports =>
      intro i listed name inside among
      obtain ⟨fullName, inUse, rfl⟩ := settled.exists_name_iff.mp ⟨i, listed, inside⟩
      exact locals.class_apart fullName inUse among

/-! ## Emissions -/

/-- What an emission makes of names of types: `visits` is its walk, `body` its declarations. -/
structure BindsNames (words : ReservedWords) (localNamespace : String) (modules : Modules)
    (visits : List Visit) (body : List Declaration) (result : Except Failure String) : Prop where
  /-- It is accepted if nothing is wrong with a single name, number or node, and no two types that
  are imported have one simple name. -/
  accepted_iff : (∃ text, result = .ok text) ↔
    (∀ v ∈ visits, causeAt words localNamespace [] v.site = none) ∧
      ¬ Conflict (Uses localNamespace visits)
  /-- The text is then faithful exactly if what is not imported keeps apart. -/
  faithful_of_ok : ∀ text, result = .ok text → ∃ imports,
    ImportsOf modules (Uses localNamespace visits) imports ∧ text = moduleText imports body ∧
      (IsFaithful visits imports (declaredNames body) ↔
        LocalsApart localNamespace visits (declaredNames body))

theorem Performs.bindsNames {words : ReservedWords} {action : Action (List Declaration)}
    {body : List Declaration} (performs : Performs words action body visits)
    (localNamespace : String) (emitter : TypeScriptEmitter) :
    BindsNames words localNamespace emitter.modules visits body
      ((TypeScriptEmitter.emit localNamespace action).run emitter).1 := by
  have accepted := (exists_text_iff performs localNamespace emitter).trans defectsOn_eq_nil_iff
  refine ⟨accepted, fun text ok => ?_⟩
  obtain ⟨imports, settled, _, printed⟩ :=
    (performs.emitsImports localNamespace emitter).imports_of_ok text ok
  exact ⟨imports, settled, printed, isFaithful_iff settled (accepted.mp ⟨text, ok⟩).2⟩

/-- **What the names of types stand for** in the text of a namespace and of a class alone. -/
theorem emission_binds (words : ReservedWords) :
    (∀ (n : Namespace) (emitter : TypeScriptEmitter),
      BindsNames words n.name emitter.modules n.declarationVisits (declarationsOf n)
        ((TypeScriptEmitter.emitNamespace (.ok words) n).run emitter).1) ∧
    ∀ (c : ClassDecl) (emitter : TypeScriptEmitter),
      BindsNames words "" emitter.modules c.visits (classesOf [c])
        ((TypeScriptEmitter.emitType (.ok words) c).run emitter).1 :=
  ⟨fun n => (performs_namespaceNodes n).bindsNames n.name,
    fun c => (performs_classNodes_singleton c).bindsNames ""⟩

/-- A namespace with a class `Widget`, and a class that refers to it and to a type of the same simple
name in another namespace. -/
def mixed : Namespace where
  name := "App"
  imports := []
  types := [
    { name := "Widget" },
    { name := "Mixed"
      members := [
        .field { name := "a", type := .plain "App.Widget" },
        .field { name := "b", type := .plain "Lib.Widget" }] }]

/-- It is accepted, and its text is not faithful: both types are printed alike, and the import takes
the name of the class. -/
theorem emission_binds_mixed :
    ((TypeScriptEmitter.emitNamespace (.ok .standard) mixed).run {}).1 =
        .ok (moduleText [⟨"lib", ["Widget"]⟩] (declarationsOf mixed)) ∧
      Prints mixed.declarationVisits "App.Widget" ∧ Prints mixed.declarationVisits "Lib.Widget" ∧
      simpleName "App.Widget" = simpleName "Lib.Widget" ∧
      "Widget" ∈ declaredNames (declarationsOf mixed) := by
  have clean : defectsOn .standard mixed.name [] mixed.declarationVisits = [] := by decide +kernel
  have imports : (referencesOn mixed.name [] mixed.declarationVisits).imports [] =
      [⟨"lib", ["Widget"]⟩] := by
    decide +kernel
  refine ⟨?text, ?first, ?second, by decide, by decide⟩
  case text =>
    have outcome := outcome_emit (@performs_namespaceNodes .standard mixed) mixed.name {}
    rw [if_pos clean, imports] at outcome
    exact outcome
  case first => exact ⟨⟨⟨.type "App.Widget", "Mixed.a"⟩, by decide, rfl⟩, by decide⟩
  case second => exact ⟨⟨⟨.type "Lib.Widget", "Mixed.b"⟩, by decide, rfl⟩, by decide⟩

end ServiceWriter.TypeScript

import Mathlib.Data.List.Chain
import ServiceWriter.Proofs.CSharp.Declarations
import ServiceWriter.Proofs.TypeScript.Imports
import ServiceWriter.Proofs.TypeScript.Parts

/-!
# Members that a TypeScript class declares

Fields and methods become one element each. A property becomes an element for each accessor, and the
two count as one declaration if they stand together. So the members that the elements of a class
declare (`ClassNode.memberNames`) are members of the class in their order, but not always all of them:
a property without accessors leaves nothing behind, and two properties of one name, the first with a
getter alone and the second with a setter alone, are taken for one (`memberNames_eq_iff`). In C# each
member is declared (`emission_declares_members`).
-/

set_option autoImplicit false

namespace ServiceWriter

/-! ## Members of a tree -/

namespace Member

/-- The number of elements that a member becomes: one, or as many as it has accessors. -/
def elementCount : Member → Nat
  | .field _ | .method _ => 1
  | .property p => p.getter.isPresent.toNat + p.setter.isPresent.toNat
  | .foreign _ _ => 0

/-- The name of a property with a getter alone. -/
def loneGetter : Member → Option String
  | .property p => if p.getter.isPresent && !p.setter.isPresent then some p.name else none
  | _ => none

/-- The name of a property with a setter alone. -/
def loneSetter : Member → Option String
  | .property p => if p.setter.isPresent && !p.getter.isPresent then some p.name else none
  | _ => none

/-- A property with a getter alone, and one of the same name with a setter alone. -/
def IsSplit (first second : Member) : Prop :=
  first.loneGetter ≠ none ∧ first.loneGetter = second.loneSetter

end Member

/-- No member goes unseen: each property has an accessor, and no two properties stand side by side as
the getter and the setter of one. -/
def ClassDecl.KeepsMembers (c : ClassDecl) : Prop :=
  (∀ p, .property p ∈ c.members → p.getter.isPresent = true ∨ p.setter.isPresent = true) ∧
    c.members.IsChain fun m m' => ¬ m.IsSplit m'

namespace TypeScript

/-! ## Elements of a class -/

/-- The name that an element declares. -/
def Element.declaredName : Element → String
  | .field _ _ binding _ | .getter _ binding _ | .setter _ binding _ => binding.name
  | .method _ _ name _ _ _ => name

/-- The names of the members that elements declare. `getter` is the name of the getter right before
them, if there is one; a setter of this name belongs to the same property. -/
def declaredMembers : Option String → List Element → List String
  | _, [] => []
  | _, .getter _ binding _ :: rest => binding.name :: declaredMembers (some binding.name) rest
  | getter, .setter _ binding _ :: rest =>
    if getter = some binding.name then declaredMembers none rest
    else binding.name :: declaredMembers none rest
  | _, element :: rest => element.declaredName :: declaredMembers none rest

/-- The names of the members that a class declares, a getter and the setter behind it counted once. -/
def ClassNode.memberNames (node : ClassNode) : List String := declaredMembers none node.elements

theorem map_declaredName_elementsOf (m : Member) :
    (elementsOf m).map Element.declaredName = List.replicate m.elementCount m.name := by
  cases m with
  | property p =>
    obtain ⟨name, type, access, ⟨hasGetter, _⟩, ⟨hasSetter, _⟩⟩ := p
    cases hasGetter <;> cases hasSetter <;> rfl
  | field _ | method _ | foreign _ _ => rfl

variable {m : Member} {getter : Option String} {rest : List Element}

/-- A member without elements declares nothing. -/
theorem elementsOf_eq_nil (none : m.elementCount = 0) : elementsOf m = [] := by
  have length := congrArg List.length (map_declaredName_elementsOf m)
  rw [none, List.length_map] at length
  exact List.eq_nil_of_length_eq_zero length

/-- A setter alone, right behind a getter of its name, is taken for a part of it. -/
theorem declaredMembers_of_loneSetter {name : String} (lone : m.loneSetter = some name) :
    declaredMembers (some name) (elementsOf m ++ rest) = declaredMembers none rest := by
  cases m with
  | property p =>
    obtain ⟨declared, type, access, ⟨hasGetter, _⟩, ⟨hasSetter, _⟩⟩ := p
    cases hasSetter with
    | false => cases lone
    | true =>
      cases hasGetter with
      | true => cases lone
      | false =>
        cases lone
        exact if_pos rfl
  | field _ | method _ | foreign _ _ => cases lone

/-- Any other member with elements declares its name. -/
theorem declaredMembers_of_apart (some : m.elementCount ≠ 0)
    (apart : getter = none ∨ getter ≠ m.loneSetter) :
    declaredMembers getter (elementsOf m ++ rest) =
      m.name :: declaredMembers m.loneGetter rest := by
  cases m with
  | property p =>
    obtain ⟨name, type, access, ⟨hasGetter, _⟩, ⟨hasSetter, _⟩⟩ := p
    cases hasGetter with
    | true =>
      cases hasSetter with
      | true => exact congrArg (name :: ·) (if_pos rfl)
      | false => rfl
    | false =>
      cases hasSetter with
      | true =>
        refine if_neg fun behind => ?_
        rcases apart with rfl | apart
        · cases behind
        · exact apart behind
      | false => exact absurd rfl some
  | field _ | method _ => rfl
  | foreign _ _ => exact absurd rfl some

/-! ## Members declared -/

/-- The members declared are members of the class, in their order. -/
theorem declaredMembers_sublist (members : List Member) (getter : Option String) :
    (declaredMembers getter (members.flatMap elementsOf)).Sublist (members.map Member.name) := by
  induction members generalizing getter with
  | nil => exact List.Sublist.slnil
  | cons m rest ih =>
    rw [List.flatMap_cons, List.map_cons]
    by_cases empty : m.elementCount = 0
    · rw [elementsOf_eq_nil empty, List.nil_append]
      exact (ih getter).cons _
    by_cases apart : getter = none ∨ getter ≠ m.loneSetter
    · rw [declaredMembers_of_apart empty apart]
      exact (ih _).cons_cons _
    · rw [not_or, not_ne_iff, ← ne_eq, Option.ne_none_iff_exists'] at apart
      obtain ⟨⟨name, rfl⟩, lone⟩ := apart
      rw [declaredMembers_of_loneSetter lone.symm]
      exact (ih none).cons _

/-- **All members are declared** exactly if each has an element and none is a setter alone behind a
getter alone of its name. -/
theorem declaredMembers_eq_iff (members : List Member) (getter : Option String) :
    declaredMembers getter (members.flatMap elementsOf) = members.map Member.name ↔
      (∀ m ∈ members, m.elementCount ≠ 0) ∧
        (∀ m ∈ members.head?, getter = none ∨ getter ≠ m.loneSetter) ∧
        members.IsChain fun m m' => ¬ m.IsSplit m' := by
  -- a member that is passed over is missing from the count
  have shorter (m : Member) (rest : List Member) (getter : Option String) :
      declaredMembers getter (rest.flatMap elementsOf) ≠ (m :: rest).map Member.name := by
    intro same
    have length := (declaredMembers_sublist rest getter).length_le
    rw [same, List.length_map, List.length_map] at length
    exact absurd length (Nat.not_succ_le_self _)
  induction members generalizing getter with
  | nil => simp [declaredMembers]
  | cons m rest ih =>
    rw [List.flatMap_cons]
    by_cases empty : m.elementCount = 0
    · rw [elementsOf_eq_nil empty, List.nil_append]
      exact ⟨fun same => absurd same (shorter m rest getter),
        fun all => absurd empty (all.1 m List.mem_cons_self)⟩
    by_cases apart : getter = none ∨ getter ≠ m.loneSetter
    · rw [declaredMembers_of_apart empty apart, List.map_cons, List.cons_inj_right]
      refine (ih m.loneGetter).trans ?_
      have here : ∀ m' ∈ some m, getter = none ∨ getter ≠ m'.loneSetter := by
        rintro m' ⟨⟩
        exact apart
      have next : (∀ m' ∈ rest.head?, m.loneGetter = none ∨ m.loneGetter ≠ m'.loneSetter) ↔
          ∀ m' ∈ rest.head?, ¬ m.IsSplit m' :=
        forall₂_congr fun m' _ => by rw [Member.IsSplit, not_and_or, not_ne_iff]
      rw [List.forall_mem_cons, List.isChain_cons, List.head?_cons, next]
      constructor
      · exact fun ⟨each, first, chain⟩ => ⟨⟨empty, each⟩, here, first, chain⟩
      · exact fun ⟨⟨_, each⟩, _, first, chain⟩ => ⟨each, first, chain⟩
    · have behind := apart
      rw [not_or, not_ne_iff, ← ne_eq, Option.ne_none_iff_exists'] at behind
      obtain ⟨⟨name, rfl⟩, lone⟩ := behind
      rw [declaredMembers_of_loneSetter lone.symm]
      exact ⟨fun same => absurd same (shorter m rest none), fun all => absurd (all.2.1 m rfl) apart⟩

/-- A member at which nothing is wrong has elements, unless it is a property without accessors. -/
theorem elementCount_ne_zero_iff {words : ReservedWords}
    (clean : ∀ site ∈ m.sites, causeAt words "" [] site = none) :
    m.elementCount ≠ 0 ↔
      ∀ p, m = .property p → p.getter.isPresent = true ∨ p.setter.isPresent = true := by
  cases m with
  | property p =>
    obtain ⟨name, type, access, ⟨hasGetter, _⟩, ⟨hasSetter, _⟩⟩ := p
    cases hasGetter <;> cases hasSetter <;> simp [Member.elementCount]
  | field _ | method _ => simp [Member.elementCount]
  | foreign name node =>
    have wrong := clean (.foreign node.kind) List.mem_cons_self
    cases wrong

/-- How the elements of a class declare its members. -/
structure DeclaresMembers (c : ClassDecl) (node : ClassNode) : Prop where
  /-- The elements are those of the members, one member after the other, under their names. -/
  elements : node.elements.map Element.declaredName =
    c.members.flatMap fun m => List.replicate m.elementCount m.name
  /-- The members declared are members of the class, in their order. -/
  inOrder : node.memberNames.Sublist (c.members.map Member.name)
  /-- All of them are declared exactly if none goes unseen. -/
  all_iff : node.memberNames = c.members.map Member.name ↔ c.KeepsMembers

/-- **The elements of a class declare its members** as far as each is seen, if nothing is wrong with
the class. -/
theorem declaresMembers_classOf {words : ReservedWords} {c : ClassDecl}
    (clean : ∀ v ∈ c.visits, causeAt words "" [] v.site = none) :
    DeclaresMembers c (classOf c) := by
  have sites := (ClassDecl.forall_visits_iff (causeAt words "" [] · = none)).mp clean
  refine ⟨?elements, declaredMembers_sublist c.members none, ?all⟩
  case elements =>
    rw [classOf, List.map_flatMap]
    exact List.flatMap_congr fun m _ => map_declaredName_elementsOf m
  case all =>
    refine (declaredMembers_eq_iff c.members none).trans ?_
    have accessors : (∀ m ∈ c.members, m.elementCount ≠ 0) ↔ ∀ p, .property p ∈ c.members →
        p.getter.isPresent = true ∨ p.setter.isPresent = true := by
      constructor
      · exact fun each p listed =>
          (elementCount_ne_zero_iff (sites.2 _ listed)).mp (each _ listed) p rfl
      · intro each m listed
        refine (elementCount_ne_zero_iff (sites.2 m listed)).mpr ?_
        rintro p rfl
        exact each p listed
    rw [accessors, ClassDecl.KeepsMembers]
    exact and_congr_right fun _ => and_iff_right fun _ _ => .inl rfl

end TypeScript

/-! ## Emissions -/

/-- **Members that a text declares.** In C# the lines of an accepted class are read as an outline
that declares each of its members, in their order. In TypeScript the elements of an accepted class
declare its members in their order, and all of them exactly if none goes unseen. So the two texts
declare the same members in exactly that case, if the names of types leave those of members to be
read. -/
theorem emission_declares_members (words : ReservedWords) (c : ClassDecl) :
    (∀ (imports : List String) (emitter : CSharpEmitter) (text : String),
      ((CSharpEmitter.emitType (.ok words) c imports).run emitter).1 = .ok text →
      text = "\n".intercalate (CSharp.emittedLines words c imports emitter) ++ "\n" ∧
        ∃ o, CSharp.readClass (CSharp.emittedLines words c imports emitter) = some o ∧
          CSharp.DeclaresMembers imports c o) ∧
    (∀ (emitter : TypeScriptEmitter) (text : String),
      ((TypeScriptEmitter.emitType (.ok words) c).run emitter).1 = .ok text →
      ∃ imports node, text = TypeScript.moduleText imports (TypeScript.classesOf [c]) ∧
        TypeScript.declaredClasses (TypeScript.classesOf [c]) = [node] ∧
        TypeScript.DeclaresMembers c node) ∧
    ∀ (imports : List String) (o : CSharp.ClassOutline) (node : TypeScript.ClassNode),
      CSharp.DeclaresMembers imports c o → TypeScript.DeclaresMembers c node →
      (∀ m ∈ c.members, ∀ name ∈ CSharp.typeNamesBefore m,
        ∀ sign ∈ CSharp.nameEnds, sign ∉ name.toList) →
      (o.members.map (fun member => CSharp.declaredName member.line) = node.memberNames ↔
        c.KeepsMembers) := by
  refine ⟨?csharp, ?typescript, ?both⟩
  case csharp =>
    intro imports emitter text ok
    obtain ⟨clean, printed⟩ := CSharp.of_emitType_eq_ok ok
    rw [CSharp.emittedLines_eq]
    exact ⟨printed, _, CSharp.readClass_lines clean, CSharp.declaresMembers_classOutline clean⟩
  case typescript =>
    intro emitter text ok
    have performs := @TypeScript.performs_classNodes_singleton words c
    obtain ⟨imports, _, _, printed⟩ := (performs.emitsImports "" emitter).imports_of_ok text ok
    have clean := (TypeScript.exists_text_iff performs "" emitter).mp ⟨text, ok⟩
    exact ⟨imports, _, printed, TypeScript.declaredClasses_classesOf [c],
      TypeScript.declaresMembers_classOf (TypeScript.defectsOn_eq_nil_iff.mp clean).1⟩
  case both =>
    intro imports o node outlined declares plain
    rw [outlined.names plain, eq_comm]
    exact declares.all_iff

/-- A class with a property `Size` that has the given accessors, before a method. -/
def sized (getter setter : Accessor) : ClassDecl where
  name := "C"
  members := [
    .property
      { name := "Size", type := .plain "System.Object", getter := getter, setter := setter },
    .method { name := "Reset", returnType := .plain "System.Void" }]

/-- A property with both accessors is declared once in each language. -/
theorem emission_declares_members_both :
    ∃ o node,
      CSharp.readClass (CSharp.emittedLines .standard (sized ⟨true, []⟩ ⟨true, []⟩) [] {}) = some o ∧
      TypeScript.declaredClasses (TypeScript.classesOf [sized ⟨true, []⟩ ⟨true, []⟩]) = [node] ∧
      o.members.map (fun member => CSharp.declaredName member.line) = ["Size", "Reset"] ∧
      node.memberNames = ["Size", "Reset"] := by
  have clean : CSharp.defectsOn .standard (sized ⟨true, []⟩ ⟨true, []⟩).visits = [] := by
    decide +kernel
  have clean' : TypeScript.defectsOn .standard "" [] (sized ⟨true, []⟩ ⟨true, []⟩).visits = [] := by
    decide +kernel
  have ok := CSharp.text_of_clean
    (@CSharp.performs_classDecl [] .standard (sized ⟨true, []⟩ ⟨true, []⟩)) {} clean
  obtain ⟨_, ok'⟩ := (TypeScript.exists_text_iff
    (TypeScript.performs_classNodes_singleton (sized ⟨true, []⟩ ⟨true, []⟩)) "" {}).mpr clean'
  obtain ⟨csharp, typescript, both⟩ :=
    emission_declares_members .standard (sized ⟨true, []⟩ ⟨true, []⟩)
  obtain ⟨_, o, read, outlined⟩ := csharp [] {} _ ok
  obtain ⟨_, node, _, declared, declares⟩ := typescript {} _ ok'
  have plain : ∀ sign ∈ CSharp.nameEnds, ∀ m ∈ (sized ⟨true, []⟩ ⟨true, []⟩).members,
      ∀ name ∈ CSharp.typeNamesBefore m, sign ∉ name.toList :=
    Text.forall_mem_of_all (by decide)
  have keeps : (sized ⟨true, []⟩ ⟨true, []⟩).KeepsMembers := by
    simp [sized, ClassDecl.KeepsMembers, Member.IsSplit, Member.loneGetter]
  have names : node.memberNames = ["Size", "Reset"] := declares.all_iff.mpr keeps
  exact ⟨o, node, read, declared, ((both [] o node outlined declares
    fun m listed name named sign ends => plain sign ends m listed name named).mpr keeps).trans names,
    names⟩

/-- A property without accessors is declared in C# and leaves nothing behind in TypeScript. -/
theorem emission_declares_members_neither :
    ((CSharpEmitter.emitType (.ok .standard) (sized {} {}) []).run {}).1 =
        .ok ("public class C\n\x7b\n    private object Size\n    \x7b\n    \x7d\n\n" ++
          "    private void Reset()\n    \x7b\n    \x7d\n\x7d\n") ∧
      ((TypeScriptEmitter.emitType (.ok .standard) (sized {} {})).run {}).1 =
        .ok ("export class C \x7b\n    private Reset(): void \x7b\n    \x7d\n\x7d\n") ∧
      (sized {} {}).members.map Member.name = ["Size", "Reset"] ∧
      (TypeScript.classOf (sized {} {})).memberNames = ["Reset"] := by
  refine ⟨?csharp, ?typescript, rfl, rfl⟩
  case csharp =>
    have clean : CSharp.defectsOn .standard (sized {} {}).visits = [] := by decide +kernel
    exact CSharp.text_of_clean (CSharp.performs_classDecl _) {} clean
  case typescript =>
    rw [TypeScriptEmitter.emitType,
      TypeScript.text_of_clean (TypeScript.performs_classNodes_singleton _) ""
        (by decide +kernel) (by decide +kernel : _ = [])]
    exact congrArg Except.ok (by decide +kernel)

end ServiceWriter

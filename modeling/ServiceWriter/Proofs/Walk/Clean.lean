import ServiceWriter.Proofs.TypeScript.References
import ServiceWriter.Proofs.Walk.CSharp

/-!
# Walks on which nothing is wrong

A name that may be written as it stands is free (`IsFree`): an identifier and no reserved word. In C#
a walk meets no defect exactly if there is none at any of its visits
(`CSharp.defectsOn_eq_nil_iff`). In TypeScript there must be no two types in use with one simple
name either (`TypeScript.defectsOn_eq_nil_iff`). An emission whose walk meets no defect gives a text,
and one that gives a text met none.
-/

set_option autoImplicit false

namespace ServiceWriter

open Text

/-! ## Free names -/

/-- The name is an identifier and not reserved in the language. -/
def IsFree (words : ReservedWords) (language : Language) (name : String) : Prop :=
  isIdentifier name = true ∧ words.contains language name = false

instance (words : ReservedWords) (language : Language) (name : String) :
    Decidable (IsFree words language name) :=
  inferInstanceAs (Decidable (_ ∧ _))

/-- All parts of the dotted name are free. -/
def IsFreeDotted (words : ReservedWords) (language : Language) (name : String) : Prop :=
  ∀ part ∈ dottedParts name, IsFree words language part

instance (words : ReservedWords) (language : Language) (name : String) :
    Decidable (IsFreeDotted words language name) :=
  inferInstanceAs (Decidable (∀ part ∈ dottedParts name, _))

/-- All reserved words are written in small letters. -/
theorem not_isUpper_of_reserved {language : Language} {word : String} {c : Char}
    (reserved : word ∈ ReservedWords.standard.list language) (among : c ∈ word.toList) :
    c.isUpper = false := by
  have small : (ReservedWords.standard.list language).all
      (fun word => word.toList.all fun c => !c.isUpper) = true := by
    cases language <;> decide +kernel
  have all := List.all_eq_true.mp (List.all_eq_true.mp small word reserved) c among
  exact Bool.not_eq_true' _ ▸ all

/-- An identifier with a capital letter is free in both languages. -/
theorem isFree_of_capital {language : Language} {name : String} (valid : isIdentifier name = true)
    (capital : name.toList.any Char.isUpper = true) : IsFree .standard language name := by
  obtain ⟨c, among, upper⟩ := List.any_eq_true.mp capital
  refine ⟨valid, ?_⟩
  by_contra reserved
  rw [Bool.not_eq_false, ReservedWords.contains, List.contains_iff_mem] at reserved
  rw [not_isUpper_of_reserved reserved among] at upper
  cases upper

variable {words : ReservedWords} {language : Language} {visits : List Visit}

theorem of_mem_dottedVisits {name : String} {v : Visit} (member : v ∈ dottedVisits name) :
    v.subject = name ∧ ∃ part ∈ dottedParts name, v.site = .binding part := by
  obtain ⟨site, inside, rfl⟩ := List.mem_map.mp member
  obtain ⟨part, among, rfl⟩ := List.mem_map.mp inside
  exact ⟨rfl, part, among, rfl⟩

theorem nameCause_eq_none_iff {name : String} :
    nameCause words language name = none ↔ IsFree words language name := by
  unfold nameCause IsFree
  by_cases valid : isIdentifier name
  · by_cases reserved : words.contains language name
    · simp [valid, reserved]
    · simp [valid, reserved]
  · simp [valid]

theorem code_of_nameCause {name : String} {cause : Cause}
    (found : nameCause words language name = some cause) : cause.code = .invalidIdentifier := by
  unfold nameCause at found
  split at found
  · split at found
    · cases found
      rfl
    · cases found
  · cases found
    rfl

/-! ## Sites of a class -/

/-- The sites of a member, under whatever subject. -/
def Member.sites : Member → List Site
  | .field f => f.sites
  | .property p => p.sites
  | .method m => m.sites
  | .foreign _ node => [.foreign node.kind]

theorem Member.map_site_visits (owner : String) (m : Member) :
    (m.visits owner).map Visit.site = m.sites := by
  cases m <;> simp [visits, sites, visitsOf, Function.comp_def]

/-- The sites of a class: its name and those of its members. -/
theorem ClassDecl.map_site_visits (c : ClassDecl) :
    c.visits.map Visit.site = .binding c.name :: c.members.flatMap Member.sites := by
  simp [visits, List.map_flatMap, Member.map_site_visits]

/-- What holds at all visits of a class holds at its name and at the sites of its members. -/
theorem ClassDecl.forall_visits_iff (P : Site → Prop) {c : ClassDecl} :
    (∀ v ∈ c.visits, P v.site) ↔ P (.binding c.name) ∧ ∀ m ∈ c.members, ∀ site ∈ m.sites, P site := by
  rw [← List.forall_mem_map, c.map_site_visits, List.forall_mem_cons, List.forall_mem_flatMap]

/-! ## C# -/

namespace CSharp

theorem defectsOn_eq_nil_iff :
    defectsOn words visits = [] ↔ ∀ v ∈ visits, causeAt words v.site = none := by
  simp [defectsOn, List.filterMap_eq_nil_iff]

theorem causeAt_member {name : String} :
    causeAt words (.member name) = none ↔ IsFree words .csharp name :=
  nameCause_eq_none_iff

theorem causeAt_binding {name : String} :
    causeAt words (.binding name) = none ↔ IsFree words .csharp name :=
  nameCause_eq_none_iff

theorem causeAt_type {fullName : String} : causeAt words (.type fullName) = none := rfl

theorem dottedVisits_clean_iff {name : String} :
    (∀ v ∈ dottedVisits name, causeAt words v.site = none) ↔ IsFreeDotted words .csharp name := by
  simp [dottedVisits, visitsOf, causeAt_binding, IsFreeDotted]

/-- An emission gives a text exactly if nothing is wrong with what it visits. -/
theorem exists_text_iff {action : Action Unit} {imports : List String} {defects : List Defect}
    {rows : List Row} (performs : Performs imports action () defects rows)
    (emitter : CSharpEmitter) :
    (∃ text, ((CSharpEmitter.emit imports action).run emitter).1 = .ok text) ↔ defects = [] := by
  rw [run_emit performs, outcome_addAll]
  by_cases clean : defects = []
  · simp [clean]
  · simp [clean]

/-- The text is then the page of its rows. -/
theorem text_of_clean {action : Action Unit} {imports : List String} {defects : List Defect}
    {rows : List Row} (performs : Performs imports action () defects rows)
    (emitter : CSharpEmitter) (clean : defects = []) :
    ((CSharpEmitter.emit imports action).run emitter).1 = .ok (page rows) := by
  rw [run_emit performs, outcome_addAll, if_pos clean]

/-- A class that gives a text has nothing wrong with it, and the text is the page of its rows. -/
theorem of_emitType_eq_ok {c : ClassDecl} {imports : List String} {emitter : CSharpEmitter}
    {text : String}
    (ok : ((CSharpEmitter.emitType (.ok words) c imports).run emitter).1 = .ok text) :
    (∀ v ∈ c.visits, causeAt words v.site = none) ∧ text = page (classRows imports c) := by
  have performs := @performs_classDecl imports words c
  have clean := (exists_text_iff performs emitter).mp ⟨text, ok⟩
  exact ⟨defectsOn_eq_nil_iff.mp clean,
    Except.ok.inj (ok.symm.trans (text_of_clean performs emitter clean))⟩

end CSharp

/-! ## TypeScript -/

namespace TypeScript

variable {localNamespace : String} {references : References}

/-- What is wrong with a site before anything is referred to is wrong with it at any time. -/
theorem causeAt_of_nil {site : Site} {cause : Cause}
    (found : causeAt words localNamespace [] site = some cause) :
    causeAt words localNamespace references site = some cause := by
  cases site with
  | type fullName =>
    simp only [causeAt] at found
    split at found <;> cases found
  | member _ | binding _ | number _ | foreign _ => exact found

/-- Before anything is referred to, it does not matter which namespace is emitted. -/
theorem causeAt_nil_eq (localNamespace other : String) (site : Site) :
    causeAt words localNamespace [] site = causeAt words other [] site := by
  cases site with
  | type fullName =>
    simp only [causeAt]
    split <;> split <;> rfl
  | member _ | binding _ | number _ | foreign _ => rfl

/-- What is wrong with a site at some time is an ambiguous name or was wrong from the beginning. -/
theorem causeAt_or_ambiguous {site : Site} {cause : Cause}
    (found : causeAt words localNamespace references site = some cause) :
    (∃ name first second, cause = .ambiguousType name first second) ∨
      causeAt words localNamespace [] site = some cause := by
  cases site with
  | type fullName =>
    simp only [causeAt] at found
    split at found
    · obtain ⟨previous, _, rfl⟩ := Option.map_eq_some_iff.mp found
      exact .inl ⟨_, _, _, rfl⟩
    · cases found
  | member _ | binding _ | number _ | foreign _ => exact .inr found

theorem mem_defectsOn_of_visit {v : Visit} {cause : Cause} (inside : v ∈ visits)
    (found : causeAt words localNamespace [] v.site = some cause) :
    ⟨cause, v.subject⟩ ∈ defectsOn words localNamespace references visits := by
  induction visits generalizing references with
  | nil => cases inside
  | cons w rest ih =>
    rcases List.mem_cons.mp inside with rfl | inside
    · have here : causeAt words localNamespace references v.site = some cause :=
        causeAt_of_nil found
      exact List.mem_append_left _ (by simp [here])
    · exact List.mem_append_right _ (ih inside)

/-- **A walk meets no defect** exactly if nothing is wrong with what it visits and no two types in
use have one simple name. -/
theorem defectsOn_eq_nil_iff :
    defectsOn words localNamespace [] visits = [] ↔
      (∀ v ∈ visits, causeAt words localNamespace [] v.site = none) ∧
        ¬ Conflict (Uses localNamespace visits) := by
  constructor
  · intro clean
    constructor
    · intro v inside
      by_contra wrong
      obtain ⟨cause, found⟩ := Option.ne_none_iff_exists'.mp wrong
      have met : ⟨cause, v.subject⟩ ∈ defectsOn words localNamespace [] visits :=
        mem_defectsOn_of_visit inside found
      rw [clean] at met
      cases met
    · intro conflict
      obtain ⟨d, met, _⟩ := (exists_conflict_iff words).mpr conflict
      rw [clean] at met
      cases met
  · rintro ⟨right, apart⟩
    rw [List.eq_nil_iff_forall_not_mem]
    intro d met
    obtain ⟨v, inside, references', found, _⟩ := exists_visit_of_mem met
    rcases causeAt_or_ambiguous found with ambiguous | wrong
    · exact apart ((exists_conflict_iff words).mp ⟨d, met, ambiguous⟩)
    · rw [right v inside] at wrong
      cases wrong

theorem causeAt_member {name : String} :
    causeAt words localNamespace references (.member name) = none ↔ isIdentifier name = true := by
  simp [causeAt]

/-- With nothing referred to before, nothing is wrong with a reference. -/
theorem causeAt_type_nil {fullName : String} :
    causeAt words localNamespace [] (.type fullName) = none := by
  simp only [causeAt]
  split <;> rfl

theorem causeAt_binding {name : String} :
    causeAt words localNamespace references (.binding name) = none ↔
      IsFree words .typescript name :=
  nameCause_eq_none_iff

theorem dottedVisits_clean_iff {name : String} :
    (∀ v ∈ dottedVisits name, causeAt words localNamespace [] v.site = none) ↔
      IsFreeDotted words .typescript name := by
  simp [dottedVisits, visitsOf, causeAt_binding, IsFreeDotted]

/-- An emission gives a text exactly if its walk meets no defect. -/
theorem exists_text_iff {action : Action (List Declaration)} {body : List Declaration}
    (performs : Performs words action body visits) (localNamespace : String)
    (emitter : TypeScriptEmitter) :
    (∃ text, ((TypeScriptEmitter.emit localNamespace action).run emitter).1 = .ok text) ↔
      defectsOn words localNamespace [] visits = [] := by
  rw [outcome_emit performs]
  by_cases clean : defectsOn words localNamespace [] visits = []
  · simp [clean]
  · simp [clean]

end TypeScript

end ServiceWriter

import ServiceWriter.Proofs.Service.Capability
import ServiceWriter.Proofs.Service.Decoration
import ServiceWriter.Proofs.Text.PascalCase

/-!
# The default pipeline

By default a generator makes a class with the three members of the ObjectToJson capability, under a
name that is always free (`isFree_serviceClassName`). Nothing is wrong with such a class in either
language, in whatever namespace it stands, so that its source text is refused only for the names
that the caller chose: an import or the namespace (`default_source`).
-/

set_option autoImplicit false

namespace ServiceWriter

open Text

/-! ## The name of the class -/

theorem toList_service : "Service".toList = ['S', 'e', 'r', 'v', 'i', 'c', 'e'] := by
  rfl

theorem serviceClassName_cases (serviceName : String) :
    ∃ c rest, (pascalCase serviceName ++ "Service").toList = c :: rest ∧
      (serviceClassName serviceName).toList = if c.isDigit then '_' :: c :: rest else c :: rest := by
  have text : (pascalCase serviceName ++ "Service").toList ≠ [] := by simp
  obtain ⟨c, rest, split⟩ := List.exists_cons_of_ne_nil text
  refine ⟨c, rest, split, ?_⟩
  simp only [serviceClassName, split]
  by_cases digit : c.isDigit
  · rw [if_pos digit, if_pos digit, String.toList_append, split]
    rfl
  · rw [if_neg digit, if_neg digit, split]

/-- **The name of a class is an identifier**, whatever the service is called. -/
theorem isIdentifier_serviceClassName (serviceName : String) :
    isIdentifier (serviceClassName serviceName) = true := by
  obtain ⟨c, rest, split, name⟩ := serviceClassName_cases serviceName
  have suffix : ['S', 'e', 'r', 'v', 'i', 'c', 'e'].all Char.isAlphanum = true := rfl
  have all : ∀ d ∈ c :: rest, d.isAlphanum = true := by
    intro d member
    rw [← split, String.toList_append, toList_service] at member
    rcases List.mem_append.mp member with member | member
    · exact isAlphanum_of_mem_pascalCase member
    · exact List.all_eq_true.mp suffix d member
  rw [isIdentifier, name]
  by_cases digit : c.isDigit
  · rw [if_pos digit, isIdentifierChars, Bool.and_eq_true, List.all_eq_true]
    refine ⟨rfl, fun d member => ?_⟩
    rw [isIdentifierPart, all d member, Bool.true_or]
  · rw [if_neg digit]
    exact isIdentifierChars_of_isAlphanum all (Bool.not_eq_true _ ▸ digit)

/-- **The name of a class is free in both languages**, whatever the service is called: its last word
has a capital letter. -/
theorem isFree_serviceClassName (language : Language) (serviceName : String) :
    IsFree .standard language (serviceClassName serviceName) := by
  obtain ⟨c, rest, split, name⟩ := serviceClassName_cases serviceName
  have within : 'S' ∈ c :: rest := by
    rw [← split, String.toList_append, toList_service]
    exact List.mem_append_right _ List.mem_cons_self
  refine isFree_of_capital (isIdentifier_serviceClassName serviceName) ?_
  rw [name, List.any_eq_true]
  refine ⟨'S', ?_, rfl⟩
  split
  · exact List.mem_cons_of_mem _ within
  · exact within

/-! ## The class -/

/-- The class that a generator makes by default, under a name. -/
def defaultClass (name : String) : ClassDecl where
  name := name
  access := .everyone
  isPartial := true
  members := ObjectToJson.members {}

/-- What a generator says of the class of that name, if it is verbose, when it got its members. -/
def decorationLog (verbose : Bool) (name : String) : List String :=
  if verbose then ["NewtonsoftObjectToJson: added 3 member(s) to " ++ name] else []

/-- What it says when the class is about to be emitted. -/
def emissionLog (verbose : Bool) (name : String) (target : Target) : List String :=
  if verbose then ["Emitting " ++ name ++ " as " ++ target.name] else []

theorem said_default (verbose : Bool) (name : String) :
    ({ verbose } : Generator).said name [.objectToJson {}] = decorationLog verbose name := by
  cases verbose with
  | false => rfl
  | true =>
    have line : "NewtonsoftObjectToJson" ++ ": added " ++ toString 3 ++ " member(s) to " =
        "NewtonsoftObjectToJson: added 3 member(s) to " := by decide
    rw [decorationLog, if_pos rfl, ← line]
    rfl

theorem run_generateClass_log (verbose : Bool) (service : ServiceDescription)
    (log : List String) :
    (Generator.generateClass { verbose } service).run.run log =
      (.ok (defaultClass (serviceClassName service.name.shown)),
        log ++ decorationLog verbose (serviceClassName service.name.shown)) := by
  rw [Generator.run_generateClass]
  -- what the name is does not matter, and it must not be evaluated
  generalize serviceClassName service.name.shown = name
  have nothing : ({ verbose } : Generator).found name = [] :=
    (ObjectToJsonNames.areDistinct_iff rfl).mpr areDistinct_default
  rw [if_pos nothing, said_default]
  rfl

theorem run_generateClass (service : ServiceDescription) (log : List String) :
    (Generator.generateClass {} service).run.run log =
      (.ok (defaultClass (serviceClassName service.name.shown)), log) :=
  (run_generateClass_log false service log).trans (by simp [decorationLog])

/-- The namespace that a generator puts this class into. -/
def defaultSpace (name : String) (options : SourceOptions) : Namespace where
  name := options.space
  imports := options.imports
  types := [defaultClass name]

/-- The source text is what the emitter of the language gives for that namespace, and what is said
on the way does not depend on it. -/
theorem run_generateSource_log (verbose : Bool) (words : Vocabulary) (service : ServiceDescription)
    (options : SourceOptions) (log : List String) :
    (Generator.generateSource { verbose } words service options).run.run log =
      (Generator.emit words options (defaultSpace (serviceClassName service.name.shown) options),
        log ++ (decorationLog verbose (serviceClassName service.name.shown) ++
          emissionLog verbose (serviceClassName service.name.shown) options.target)) := by
  have space : (Generator.generateNamespace { verbose } service options).run.run log =
      (.ok (defaultSpace (serviceClassName service.name.shown) options),
        log ++ decorationLog verbose (serviceClassName service.name.shown)) :=
    Logged.run_bind (run_generateClass_log verbose service log)
  unfold Generator.generateSource
  rw [Logged.run_bind space, ← List.append_assoc]
  generalize serviceClassName service.name.shown = name
  generalize log ++ decorationLog verbose name = log
  generalize defaultSpace name options = n
  cases verbose with
  | false =>
    rw [show emissionLog false name options.target = [] from rfl, List.append_nil]
    cases Generator.emit words options n with
    | ok text => rfl
    | error failure => rfl
  | true =>
    cases Generator.emit words options n with
    | ok text => rfl
    | error failure => rfl

/-- By default nothing is said. -/
theorem run_generateSource (words : Vocabulary) (service : ServiceDescription)
    (options : SourceOptions) (log : List String) :
    (Generator.generateSource {} words service options).run.run log =
      (Generator.emit words options (defaultSpace (serviceClassName service.name.shown) options),
        log) :=
  (run_generateSource_log false words service options log).trans
    (by simp [decorationLog, emissionLog])

/-! ## Nothing is wrong with the class -/

theorem CSharp.defaultClass_clean {name : String} (free : IsFree .standard .csharp name) :
    ∀ v ∈ (defaultClass name).visits, CSharp.causeAt .standard v.site = none :=
  visits_clean rfl free (ObjectToJson.isFree_defaultNames .csharp)

theorem TypeScript.defaultClass_clean {name : String}
    (free : IsFree .standard .typescript name) (localNamespace : String) :
    ∀ v ∈ (defaultClass name).visits,
      TypeScript.causeAt .standard localNamespace [] v.site = none :=
  visits_clean rfl free (ObjectToJson.isFree_defaultNames .typescript) localNamespace

/-- In no namespace are two of its types in conflict. -/
theorem TypeScript.defaultSpace_apart (name : String) (options : SourceOptions) :
    ¬ Conflict (Uses options.space (defaultSpace name options).declarationVisits) := by
  refine not_conflict fun v inside fullName site => ?_
  rcases List.mem_append.mp inside with inside | inside
  · obtain ⟨c, listed, inside⟩ := List.mem_flatMap.mp inside
    rw [List.mem_singleton.mp listed] at inside
    have made : (defaultClass name).members = ObjectToJson.members {} := rfl
    exact mem_types_of_visit made inside site
  · unfold Namespace.nameVisits at inside
    split at inside
    · cases inside
    · obtain ⟨_, part, _, binding⟩ := of_mem_dottedVisits inside
      rw [binding] at site
      cases site

/-! ## The source text -/

/-- The dotted names of a source text that are the caller's: the imports, which only C# prints, and
the name of the namespace, if it has one. -/
def callersNames (language : Language) (options : SourceOptions) : List String :=
  (match language with
  | .csharp => options.imports
  | .typescript => []) ++
    if options.space = "" then [] else [options.space]

/-- An outcome that depends on nothing but dotted names. -/
structure DependsOnNames (language : Language) (names : List String)
    (outcome : Except Failure String) : Prop where
  /-- There is a text exactly if all of them are free. -/
  accepted_iff : (∃ text, outcome = .ok text) ↔
    ∀ name ∈ names, IsFreeDotted .standard language name
  /-- Otherwise every report is of an invalid identifier, under one that is not. -/
  refused : ∀ failure, outcome = .error failure → ∃ defects, failure = .rejected defects ∧
    defects ≠ [] ∧ ∀ d ∈ defects, d.code = .invalidIdentifier ∧ d.subject ∈ names ∧
      ¬ IsFreeDotted .standard language d.subject

section

variable {name : String} {options : SourceOptions}

theorem CSharp.visits_defaultSpace :
    (defaultSpace name options).visits =
      (callersNames .csharp options).flatMap dottedVisits ++
        (defaultSpace name options).classVisits := by
  unfold Namespace.visits Namespace.nameVisits Namespace.importVisits callersNames
  split <;> simp_all [defaultSpace]

theorem TypeScript.declarationVisits_defaultSpace :
    (defaultSpace name options).declarationVisits =
      (defaultSpace name options).classVisits ++
        (callersNames .typescript options).flatMap dottedVisits := by
  unfold Namespace.declarationVisits Namespace.nameVisits callersNames
  split <;> simp_all [defaultSpace]

theorem mem_classVisits_defaultSpace {v : Visit} :
    v ∈ (defaultSpace name options).classVisits ↔
      v ∈ (defaultClass name).visits := by
  simp [Namespace.classVisits, defaultSpace]

/-- What is wrong in a dotted name is that one of its parts is not free. -/
theorem invalid_of_dottedVisits {language : Language} {names : List String} {d : Defect}
    {v : Visit} {causeAt : Site → Option Cause}
    (binding : ∀ part, causeAt (.binding part) = nameCause .standard language part)
    (inside : v ∈ names.flatMap dottedVisits) (found : causeAt v.site = some d.cause)
    (same : v.subject = d.subject) :
    d.code = .invalidIdentifier ∧ d.subject ∈ names ∧
      ¬ IsFreeDotted .standard language d.subject := by
  obtain ⟨name, listed, inside⟩ := List.mem_flatMap.mp inside
  obtain ⟨subject, part, among, site⟩ := of_mem_dottedVisits inside
  rw [site, binding] at found
  rw [← same, subject]
  refine ⟨code_of_nameCause found, listed, fun free => ?_⟩
  rw [nameCause_eq_none_iff.mpr (free part among)] at found
  cases found

/-- An emission is refused with some of the defects that it met. -/
theorem rejected_of_refused {P : Defect → Prop} {defects : List Defect} {text : String}
    {failure : Failure} (met : ∀ d ∈ defects, P d)
    (failed : outcome (.ok text) (Collector.empty.addAll defects) = .error failure) :
    ∃ reported, failure = .rejected reported ∧ reported ≠ [] ∧ ∀ d ∈ reported, P d := by
  rw [outcome_addAll] at failed
  split at failed
  · cases failed
  · next wrong =>
    refine ⟨_, (Except.error.inj failed).symm, mt Collector.defects_addAll_eq_nil_iff.mp wrong, ?_⟩
    exact fun d kept => met d ((Collector.mem_of_mem_addAll kept).resolve_left List.not_mem_nil)

theorem CSharp.dependsOnNames (free : IsFree .standard .csharp name) :
    DependsOnNames .csharp (callersNames .csharp options)
      ((CSharpEmitter.emitNamespace (.ok .standard) (defaultSpace name options)).run {}).1 := by
  have clean : ∀ v ∈ (defaultSpace name options).classVisits,
      causeAt .standard v.site = none := fun v inside =>
    defaultClass_clean free v (mem_classVisits_defaultSpace.mp inside)
  have performs := @performs_namespaceDecl .standard (defaultSpace name options)
  refine ⟨?accepted, ?refused⟩
  case accepted =>
    refine (exists_text_iff performs {}).trans (defectsOn_eq_nil_iff.trans ?_)
    simp only [visits_defaultSpace, List.forall_mem_append, List.forall_mem_flatMap,
      dottedVisits_clean_iff, and_iff_left clean]
  case refused =>
    intro failure failed
    rw [CSharpEmitter.emitNamespace, run_emit performs] at failed
    refine rejected_of_refused (fun d met => ?_) failed
    obtain ⟨v, inside, found, same⟩ := exists_visit_of_mem met
    rw [visits_defaultSpace] at inside
    rcases List.mem_append.mp inside with inside | inside
    · exact invalid_of_dottedVisits (fun _ => rfl) inside found same
    · rw [clean v inside] at found
      cases found

theorem TypeScript.dependsOnNames (free : IsFree .standard .typescript name)
    (emitter : TypeScriptEmitter) :
    DependsOnNames .typescript (callersNames .typescript options)
      ((TypeScriptEmitter.emitNamespace (.ok .standard) (defaultSpace name options)).run
        emitter).1 := by
  have clean : ∀ v ∈ (defaultSpace name options).classVisits,
      causeAt .standard options.space [] v.site = none := fun v inside =>
    defaultClass_clean free options.space v (mem_classVisits_defaultSpace.mp inside)
  have apart := defaultSpace_apart name options
  have performs := @performs_namespaceNodes .standard (defaultSpace name options)
  refine ⟨?accepted, ?refused⟩
  case accepted =>
    refine (exists_text_iff performs options.space emitter).trans
      (defectsOn_eq_nil_iff.trans ((and_iff_left apart).trans ?_))
    simp only [declarationVisits_defaultSpace, List.forall_mem_append, List.forall_mem_flatMap,
      dottedVisits_clean_iff, and_iff_right clean]
  case refused =>
    intro failure failed
    rw [TypeScriptEmitter.emitNamespace, run_emit performs] at failed
    refine rejected_of_refused (fun d met => ?_) failed
    obtain ⟨v, inside, references, found, same⟩ := exists_visit_of_mem met
    rcases causeAt_or_ambiguous found with ambiguous | wrong
    · exact absurd ((exists_conflict_iff .standard).mp ⟨d, met, ambiguous⟩) apart
    · rw [declarationVisits_defaultSpace] at inside
      rcases List.mem_append.mp inside with inside | inside
      · rw [causeAt_nil_eq _ options.space, clean v inside] at wrong
        cases wrong
      · exact invalid_of_dottedVisits (fun _ => rfl) inside wrong same

end

/-- **The default pipeline fails only for names that the caller chose**, whatever the service is
called, and whatever modules the namespaces are mapped to. -/
theorem default_source (service : ServiceDescription) (options : SourceOptions)
    (log : List String) :
    DependsOnNames options.target.written (callersNames options.target.written options)
        ((Generator.generateSource {} (.ok .standard) service options).run.run log).1 ∧
      ∀ language, IsFree .standard language (serviceClassName service.name.shown) := by
  have free := fun language => isFree_serviceClassName language service.name.shown
  refine ⟨?_, free⟩
  rw [run_generateSource]
  -- from here on only this matters of the name of the class
  generalize serviceClassName service.name.shown = name at free ⊢
  unfold Generator.emit
  cases options.target.written with
  | csharp => exact CSharp.dependsOnNames (free .csharp)
  | typescript => exact TypeScript.dependsOnNames (free .typescript) _

end ServiceWriter

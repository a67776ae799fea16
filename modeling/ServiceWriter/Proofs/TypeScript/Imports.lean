import ServiceWriter.Proofs.Text.UnitOrder
import ServiceWriter.Proofs.TypeScript.References
import ServiceWriter.Proofs.Walk.Agreement

/-!
# The imports of an emission

What a list of imports must be for a set of types: it imports each type by its simple name from the
module of its namespace and nothing else, once, in ascending order (`ImportsOf`). There is only one
such list (`ImportsOf.unique`), so that the imports do not depend on the order in which types are
visited. An emission puts this list before the declarations, or is refused (`emission_imports`).
-/

set_option autoImplicit false

namespace ServiceWriter.TypeScript

open Text

/-! ## Import lists -/

/-- The text comes before the other in the order of code units. -/
def Before (a b : String) : Prop := units a < units b

/-- The imports of a set of types, from the modules configured. -/
structure ImportsOf (modules : Modules) (used : String → Prop) (imports : List Import) : Prop where
  /-- A name is imported from a module exactly if it is the simple name of a type in use whose
  namespace has that module. -/
  imported_iff : ∀ name specifier,
    (∃ i ∈ imports, i.specifier = specifier ∧ name ∈ i.names) ↔
      ∃ fullName, used fullName ∧ simpleName fullName = name ∧
        moduleFor modules (namespaceOf fullName) = specifier
  /-- There is one import for each module, in ascending order. -/
  specifiers_ascend : (imports.map Import.specifier).Pairwise Before
  /-- The names of an import are in ascending order. -/
  names_ascend : ∀ i ∈ imports, i.names.Pairwise Before
  /-- No import is empty. -/
  names_ne_nil : ∀ i ∈ imports, i.names ≠ []
  /-- No name is imported twice, from whatever modules. -/
  names_once : (imports.flatMap Import.names).Nodup

theorem Before.ne {a b : String} (before : Before a b) : a ≠ b := by
  rintro rfl
  exact List.lt_irrefl _ before

theorem Before.asymm {a b : String} (before : Before a b) (after : Before b a) : a = b :=
  absurd after (List.lt_asymm before)

/-- Ascending lists with the same texts are the same. -/
theorem eq_of_ascending {as bs : List String} (ascend : as.Pairwise Before)
    (ascend' : bs.Pairwise Before) (same : ∀ text, text ∈ as ↔ text ∈ bs) : as = bs := by
  have perm : as.Perm bs :=
    (List.perm_ext_iff_of_nodup (ascend.imp Before.ne) (ascend'.imp Before.ne)).mpr same
  exact perm.eq_of_pairwise (fun _ _ _ _ => Before.asymm) ascend ascend'

theorem nodup_eraseDups (texts : List String) : texts.eraseDups.Nodup := by
  induction length : texts.length using Nat.strong_induction_on generalizing texts with
  | h n ih =>
    cases texts with
    | nil => exact List.nodup_nil
    | cons text rest =>
      rw [List.eraseDups_cons, List.nodup_cons]
      refine ⟨fun member => ?_, ih _ ?_ _ rfl⟩
      · have apart := (List.mem_filter.mp (List.mem_eraseDups.mp member)).2
        simp at apart
      · rw [← length]
        exact Nat.lt_succ_of_le (List.length_filter_le _ _)

/-! ## One list only -/

namespace ImportsOf

variable {modules : Modules} {used : String → Prop} {imports imports' : List Import}

/-- An import is known by its specifier. -/
theorem eq_of_specifier (settled : ImportsOf modules used imports) {i j : Import}
    (member : i ∈ imports) (member' : j ∈ imports) (same : i.specifier = j.specifier) : i = j := by
  have nodup : (imports.map Import.specifier).Nodup := settled.specifiers_ascend.imp Before.ne
  exact List.inj_on_of_nodup_map nodup member member' same

theorem mem_names_iff (settled : ImportsOf modules used imports) {i : Import}
    (member : i ∈ imports) (name : String) :
    name ∈ i.names ↔ ∃ fullName, used fullName ∧ simpleName fullName = name ∧
      moduleFor modules (namespaceOf fullName) = i.specifier := by
  rw [← settled.imported_iff]
  constructor
  · exact fun inside => ⟨i, member, rfl, inside⟩
  · rintro ⟨j, member', same, inside⟩
    rwa [settled.eq_of_specifier member member' same.symm]

/-- Every import is in any other such list. -/
theorem mem_of_mem (settled : ImportsOf modules used imports)
    (settled' : ImportsOf modules used imports') {i : Import} (member : i ∈ imports) :
    i ∈ imports' := by
  obtain ⟨name, inside⟩ := List.exists_mem_of_ne_nil _ (settled.names_ne_nil i member)
  obtain ⟨j, member', specifier, _⟩ := (settled'.imported_iff name i.specifier).mpr
    ((settled.mem_names_iff member name).mp inside)
  have names : i.names = j.names := by
    refine eq_of_ascending (settled.names_ascend i member) (settled'.names_ascend j member')
      fun name => ?_
    rw [settled.mem_names_iff member, settled'.mem_names_iff member', specifier]
  have same : i = j := by
    cases i
    cases j
    simp only at specifier names
    rw [specifier, names]
  exact same ▸ member'

/-- **A set of types has one list of imports.** -/
theorem unique (settled : ImportsOf modules used imports)
    (settled' : ImportsOf modules used imports') : imports = imports' := by
  have ascend := List.pairwise_map.mp settled.specifiers_ascend
  have ascend' := List.pairwise_map.mp settled'.specifiers_ascend
  have distinct {is : List Import}
      (ascend : is.Pairwise fun i j => Before i.specifier j.specifier) :
      is.Nodup :=
    ascend.imp fun before same => before.ne (congrArg Import.specifier same)
  have perm : imports.Perm imports' :=
    (List.perm_ext_iff_of_nodup (distinct ascend) (distinct ascend')).mpr fun _ =>
      ⟨settled.mem_of_mem settled', settled'.mem_of_mem settled⟩
  refine perm.eq_of_pairwise (fun _ _ _ _ before after => ?_) ascend ascend'
  exact absurd after (List.lt_asymm before)

end ImportsOf

/-! ## The list made of references -/

/-- Each reference as the module and the name of its import. -/
def located (modules : Modules) (references : References) : List (String × String) :=
  references.map fun (name, fullName) => (moduleFor modules (namespaceOf fullName), name)

/-- The names that are imported from a module. -/
def namesFrom (modules : Modules) (references : References) (specifier : String) : List String :=
  ((located modules references).filter (·.1 == specifier)).map Prod.snd

/-- The modules that are imported from. -/
def specifiers (modules : Modules) (references : References) : List String :=
  ((located modules references).map Prod.fst).eraseDups

theorem imports_eq (modules : Modules) (references : References) :
    references.imports modules = (sortByUnits (specifiers modules references)).map fun specifier =>
      ⟨specifier, sortByUnits (namesFrom modules references specifier)⟩ :=
  rfl

section

variable {modules : Modules} {used : String → Prop} {references : References}

theorem mem_namesFrom {name specifier : String} :
    name ∈ namesFrom modules references specifier ↔
      (specifier, name) ∈ located modules references := by
  simp only [namesFrom, List.mem_map, List.mem_filter, beq_iff_eq]
  constructor
  · rintro ⟨⟨_, _⟩, ⟨member, rfl⟩, rfl⟩
    exact member
  · exact fun member => ⟨_, ⟨member, rfl⟩, rfl⟩

theorem mem_specifiers {specifier : String} :
    specifier ∈ specifiers modules references ↔
      ∃ name, name ∈ namesFrom modules references specifier := by
  simp only [specifiers, List.mem_eraseDups, List.mem_map, mem_namesFrom]
  constructor
  · rintro ⟨⟨_, name⟩, member, rfl⟩
    exact ⟨name, member⟩
  · rintro ⟨name, member⟩
    exact ⟨_, member, rfl⟩

/-- What is imported, if the references are those of the types in use. -/
theorem mem_located_iff (records : Records used references)
    (complete : ∀ fullName, used fullName → (simpleName fullName, fullName) ∈ references)
    {name specifier : String} :
    (specifier, name) ∈ located modules references ↔
      ∃ fullName, used fullName ∧ simpleName fullName = name ∧
        moduleFor modules (namespaceOf fullName) = specifier := by
  simp only [located, List.mem_map, Prod.mk.injEq]
  constructor
  · rintro ⟨⟨_, fullName⟩, member, rfl, rfl⟩
    exact ⟨fullName, records.used _ member, (records.named _ member).symm, rfl⟩
  · rintro ⟨fullName, inUse, rfl, rfl⟩
    exact ⟨_, complete fullName inUse, rfl, rfl⟩

theorem map_snd_located :
    (located modules references).map Prod.snd = references.map Prod.fst := by
  rw [located, List.map_map]
  rfl

theorem Records.nodup_namesFrom (records : Records used references) (specifier : String) :
    (namesFrom modules references specifier).Nodup := by
  have within : (namesFrom modules references specifier).Sublist (references.map Prod.fst) := by
    rw [← map_snd_located]
    exact List.filter_sublist.map Prod.snd
  exact within.nodup records.once

/-- A name is imported from one module. -/
theorem Records.specifier_unique (records : Records used references) {name first second : String}
    (member : name ∈ namesFrom modules references first)
    (member' : name ∈ namesFrom modules references second) : first = second := by
  have once : ((located modules references).map Prod.snd).Nodup := map_snd_located ▸ records.once
  have same :=
    List.inj_on_of_nodup_map once (mem_namesFrom.mp member) (mem_namesFrom.mp member') rfl
  exact congrArg Prod.fst same

/-- **The imports made of references** are those of the types in use, if all of these are
recorded. -/
theorem Records.importsOf (records : Records used references)
    (complete : ∀ fullName, used fullName → (simpleName fullName, fullName) ∈ references)
    (modules : Modules) : ImportsOf modules used (references.imports modules) := by
  rw [imports_eq]
  have nodup := nodup_eraseDups ((located modules references).map Prod.fst)
  refine ⟨?imported, ?specifiers, ?names, ?filled, ?once⟩
  case imported =>
    intro name specifier
    rw [← mem_located_iff records complete, ← mem_namesFrom]
    constructor
    · rintro ⟨i, member, rfl, inside⟩
      obtain ⟨specifier, _, rfl⟩ := List.mem_map.mp member
      exact mem_sortByUnits.mp inside
    · intro inside
      have listed := mem_sortByUnits.mpr (mem_specifiers.mpr ⟨name, inside⟩)
      exact ⟨_, List.mem_map_of_mem listed, rfl, mem_sortByUnits.mpr inside⟩
  case specifiers =>
    rw [List.map_map]
    have ascend := pairwise_sortByUnits nodup
    exact List.pairwise_map.mpr ascend
  case names =>
    intro i member
    obtain ⟨specifier, _, rfl⟩ := List.mem_map.mp member
    exact pairwise_sortByUnits (records.nodup_namesFrom specifier)
  case filled =>
    intro i member empty
    obtain ⟨specifier, listed, rfl⟩ := List.mem_map.mp member
    obtain ⟨name, inside⟩ := mem_specifiers.mp (mem_sortByUnits.mp listed)
    exact List.ne_nil_of_mem (mem_sortByUnits.mpr inside) empty
  case once =>
    rw [List.flatMap_map, List.nodup_flatMap]
    constructor
    · intro specifier _
      exact (List.mergeSort_perm _ _).nodup_iff.mpr (records.nodup_namesFrom specifier)
    · refine (pairwise_sortByUnits nodup).imp fun before name member member' => ?_
      have same := records.specifier_unique (mem_sortByUnits.mp member)
        (mem_sortByUnits.mp member')
      exact Before.ne before same

end

/-! ## Emissions -/

/-- What an emission makes of the types in use: `visits` is its walk, `met` the defects that it
meets there, `body` its declarations and `result` its outcome with the state it leaves. -/
structure EmitsImports (modules : Modules) (used : String → Prop) (visits : List Visit)
    (met : List Defect) (body : List Declaration)
    (result : Except Failure String × TypeScriptEmitter) : Prop where
  /-- The text begins with the imports of the types in use, the only list of them. -/
  imports_of_ok : ∀ text, result.1 = .ok text → ∃ imports, ImportsOf modules used imports ∧
    (∀ imports', ImportsOf modules used imports' → imports' = imports) ∧
    text = moduleText imports body
  /-- The defects met are taken into the collector, one after another. -/
  collects : result.2.collector = Collector.empty.addAll met
  /-- Each of them is reported, or else one with its key. -/
  reported : ∀ d ∈ met, ∃ e ∈ reports result.1, e.key = d.key
  /-- An ambiguous name is met exactly if two types in use have one simple name. -/
  conflict_iff : (∃ d ∈ met, d.IsConflict) ↔ Conflict used
  /-- The defect names two such types. -/
  conflict_names : ∀ d ∈ met, ∀ name first second, d.cause = .ambiguousType name first second →
    used first ∧ used second ∧ simpleName first = name ∧ simpleName second = name ∧ first ≠ second
  /-- With two such types the emission is refused. -/
  refused : Conflict used → ∃ defects, result.1 = .error (.rejected defects)
  /-- A report of an ambiguous name is not without reason. -/
  conflict_of_report : (∃ d ∈ reports result.1, d.IsConflict) → Conflict used
  /-- It is not left out in favour of another report, if subjects do not hold U+0000. -/
  report_of_conflict : (∀ v ∈ visits, IsPlain v.subject) → Conflict used →
    ∃ d ∈ reports result.1, d.IsConflict

/-- A defect that is reported like an ambiguous name is one. -/
theorem isConflict_of_identity {d e : Defect} (found : d.cause.isFound) (conflict : e.IsConflict)
    (same : d.identity = e.identity) : d.IsConflict := by
  obtain ⟨name, first, second, cause⟩ := conflict
  have found' : e.cause.isFound := by
    rw [cause]
    rfl
  have common := isCommon_of_identity found found' same
  have codes : d.cause.code = e.cause.code := congrArg Prod.fst same
  unfold Defect.isCommon at common
  rw [cause] at common codes
  unfold Defect.IsConflict
  cases cause' : d.cause with
  | ambiguousType name' first' second' => exact ⟨_, _, _, rfl⟩
  | notIdentifier _ | unsupportedKind _ | nonFinite _ =>
    rw [cause'] at common
    cases common
  | reservedWord _ =>
    rw [cause'] at codes
    cases codes
  | _ =>
    rw [cause'] at found
    cases found

/-- **The imports of an emission**, whatever it emits: they are read off its walk. -/
theorem Performs.emitsImports {words : ReservedWords} {action : Action (List Declaration)}
    {body : List Declaration} {visits : List Visit} (performs : Performs words action body visits)
    (localNamespace : String) (emitter : TypeScriptEmitter) :
    EmitsImports emitter.modules (Uses localNamespace visits) visits
      (defectsOn words localNamespace [] visits) body
      ((TypeScriptEmitter.emit localNamespace action).run emitter) := by
  have outcome := outcome_emit performs localNamespace emitter
  have given := reports_emit performs localNamespace emitter
  have kept : ∀ d ∈ defectsOn words localNamespace [] visits,
      ∃ e ∈ reports ((TypeScriptEmitter.emit localNamespace action).run emitter).1,
        e.key = d.key := by
    intro d member
    rw [given]
    exact Collector.exists_key_of_mem member
  have met : ∀ d ∈ reports ((TypeScriptEmitter.emit localNamespace action).run emitter).1,
      d ∈ defectsOn words localNamespace [] visits := by
    intro d member
    rw [given] at member
    exact (Collector.mem_of_mem_addAll member).resolve_left List.not_mem_nil
  refine ⟨?imports, ?collects, kept, exists_conflict_iff words, ?names, ?refused, ?reason, ?report⟩
  case imports =>
    intro text ok
    by_cases clean : defectsOn words localNamespace [] visits = []
    · rw [if_pos clean] at outcome
      have records : Records (Uses localNamespace visits)
          (referencesOn localNamespace [] visits) :=
        Records.nil.referencesOn fun _ inUse => inUse
      have quiet : ∀ d ∈ defectsOn words localNamespace [] visits, ¬ d.IsConflict :=
        fun d member => absurd (clean ▸ member) List.not_mem_nil
      have settled := records.importsOf (fun _ => mem_referencesOn_of_uses quiet) emitter.modules
      rw [outcome] at ok
      exact ⟨_, settled, fun _ other => other.unique settled, (Except.ok.inj ok).symm⟩
    · rw [if_neg clean] at outcome
      rw [outcome] at ok
      cases ok
  case collects =>
    rw [run_emit performs]
    rfl
  case names =>
    intro d member name first second cause
    exact conflict_of_mem Records.nil (fun _ inUse => inUse) member cause
  case refused =>
    intro conflict
    obtain ⟨d, member, _⟩ := (exists_conflict_iff words).mpr conflict
    rw [if_neg (List.ne_nil_of_mem member)] at outcome
    exact ⟨_, outcome⟩
  case reason =>
    rintro ⟨d, member, conflict⟩
    exact (exists_conflict_iff words).mp ⟨d, met d member, conflict⟩
  case report =>
    intro plain conflict
    obtain ⟨d, member, isConflict⟩ := (exists_conflict_iff words).mpr conflict
    obtain ⟨e, reported, keys⟩ := kept d member
    have member' := met e reported
    have same : e.identity = d.identity :=
      (Defect.key_eq_iff (isPlain_of_mem plain member') (isPlain_of_mem plain member)).mp keys
    exact ⟨e, reported, isConflict_of_identity (isFound_of_mem member') isConflict same⟩

theorem emitsImports_namespace (words : ReservedWords) (n : Namespace)
    (emitter : TypeScriptEmitter) :
    EmitsImports emitter.modules (Uses n.name n.declarationVisits) n.declarationVisits
      (defectsOn words n.name [] n.declarationVisits) (declarationsOf n)
      ((TypeScriptEmitter.emitNamespace (.ok words) n).run emitter) :=
  (performs_namespaceNodes n).emitsImports n.name emitter

/-- **The imports are exactly what the declarations use**, of a namespace as of a class alone. They
do not depend on the order in which the types are visited: emissions with the same modules and the
same types in use print the same imports. -/
theorem emission_imports (words : ReservedWords) :
    (∀ (n : Namespace) (emitter : TypeScriptEmitter),
      EmitsImports emitter.modules (Uses n.name n.declarationVisits) n.declarationVisits
        (defectsOn words n.name [] n.declarationVisits) (declarationsOf n)
        ((TypeScriptEmitter.emitNamespace (.ok words) n).run emitter)) ∧
    (∀ (c : ClassDecl) (emitter : TypeScriptEmitter),
      EmitsImports emitter.modules (Uses "" c.visits) c.visits
        (defectsOn words "" [] c.visits) (classesOf [c])
        ((TypeScriptEmitter.emitType (.ok words) c).run emitter)) ∧
    ∀ (n n' : Namespace) (emitter emitter' : TypeScriptEmitter) (text text' : String),
      emitter.modules = emitter'.modules →
      (∀ q, Uses n.name n.declarationVisits q ↔ Uses n'.name n'.declarationVisits q) →
      ((TypeScriptEmitter.emitNamespace (.ok words) n).run emitter).1 = .ok text →
      ((TypeScriptEmitter.emitNamespace (.ok words) n').run emitter').1 = .ok text' →
      ∃ imports, text = moduleText imports (declarationsOf n) ∧
        text' = moduleText imports (declarationsOf n') := by
  refine ⟨?space, ?alone, ?order⟩
  case space => exact emitsImports_namespace words
  case alone => exact fun c => (performs_classNodes_singleton c).emitsImports ""
  case order =>
    intro n n' emitter emitter' text text' sameModules sameUses ok ok'
    obtain ⟨imports, _, only, printed⟩ :=
      (emitsImports_namespace words n emitter).imports_of_ok text ok
    obtain ⟨imports', settled, _, printed'⟩ :=
      (emitsImports_namespace words n' emitter').imports_of_ok text' ok'
    rw [← sameModules, ← funext fun q => propext (sameUses q)] at settled
    obtain rfl := only imports' settled
    exact ⟨imports', printed, printed'⟩

/-- A class with two fields whose types have one simple name. -/
def clashing : ClassDecl where
  name := "A"
  members := [
    .field { name := "x", type := .plain "B.T" },
    .field { name := "y", type := .plain "C.T" }]

/-- Such a class is refused for the ambiguous name. -/
theorem emission_imports_clashing :
    Conflict (Uses "" clashing.visits) ∧
      ∃ d ∈ reports ((TypeScriptEmitter.emitType (.ok .standard) clashing).run {}).1,
        d.IsConflict := by
  have conflict : Conflict (Uses "" clashing.visits) := by
    refine ⟨"B.T", "C.T", ⟨by decide, ⟨.type "B.T", "A.x"⟩, by decide, rfl⟩,
      ⟨by decide, ⟨.type "C.T", "A.y"⟩, by decide, rfl⟩, by decide, by decide⟩
  have plain : ∀ v ∈ clashing.visits, IsPlain v.subject := by decide
  exact ⟨conflict, ((emission_imports .standard).2.1 clashing {}).report_of_conflict plain conflict⟩

end ServiceWriter.TypeScript

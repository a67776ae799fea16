import ServiceWriter.Proofs.TypeScript.References
import ServiceWriter.Proofs.Walk.Agreement

/-!
# What TypeScript emission reports

What an emission of TypeScript is refused with can be told from the visits of the tree, without
running it (`Flaw`). Names, numbers and nodes are judged one by one. A type is judged by those
before it: its simple name stands for the first type visited that has it and must be imported
(`firstNamed`), and that is the one which the emitter has on record (`lookup_referencesOn`). So a
namespace is refused exactly if there is a flaw, and its reports are the flaws
(`emitNamespace_refused`).
-/

set_option autoImplicit false

namespace ServiceWriter.TypeScript

open Text

/-! ## The first type of a name -/

/-- The type that a site gives a simple name to, if it must be imported. -/
def namedAt (localNamespace name : String) : Site → Option String
  | .type fullName =>
    if isImported localNamespace fullName ∧ simpleName fullName = name then some fullName else none
  | _ => none

/-- The first of the types visited that must be imported and has the simple name. -/
def firstNamed (localNamespace : String) (visits : List Visit) (name : String) : Option String :=
  visits.findSome? fun v => namedAt localNamespace name v.site

variable {words : ReservedWords} {localNamespace : String} {references : References}
  {visits : List Visit}

theorem lookup_referTo (references : References) (fullName name : String) :
    (references.referTo fullName).1.lookup name =
      (references.lookup name).or (if simpleName fullName = name then some fullName else none) := by
  by_cases same : simpleName fullName = name
  · rw [if_pos same]
    cases found : references.lookup (simpleName fullName) with
    | some previous =>
      rw [referTo_old found, ← same, found]
      rfl
    | none =>
      rw [referTo_new found, List.lookup_append, ← same, found]
      simp
  · rw [if_neg same, Option.or_none]
    have apart : (name == simpleName fullName) = false := beq_false_of_ne (Ne.symm same)
    cases found : references.lookup (simpleName fullName) with
    | some previous => rw [referTo_old found]
    | none =>
      rw [referTo_new found, List.lookup_append, List.lookup_cons, apart]
      exact Option.or_none

theorem lookup_referencesAt (references : References) (site : Site) (name : String) :
    (referencesAt localNamespace references site).lookup name =
      (references.lookup name).or (namedAt localNamespace name site) := by
  cases site with
  | type fullName =>
    simp only [referencesAt, namedAt]
    by_cases imported : isImported localNamespace fullName
    · simp only [imported, if_true, true_and]
      exact lookup_referTo references fullName name
    · simp only [imported, Bool.false_eq_true, if_false, false_and, Option.or_none]
  | member _ | binding _ | number _ | foreign _ => exact Option.or_none.symm

/-- **What is on record under a simple name** after a walk is the first type that has it. -/
theorem lookup_referencesOn (references : References) (visits : List Visit) (name : String) :
    (referencesOn localNamespace references visits).lookup name =
      (references.lookup name).or (firstNamed localNamespace visits name) := by
  induction visits generalizing references with
  | nil => exact Option.or_none.symm
  | cons v rest ih =>
    have first : firstNamed localNamespace (v :: rest) name =
        (namedAt localNamespace name v.site).or (firstNamed localNamespace rest name) := by
      unfold firstNamed
      rw [List.findSome?_cons]
      cases namedAt localNamespace name v.site <;> rfl
    have step : referencesOn localNamespace references (v :: rest) =
        referencesOn localNamespace (referencesAt localNamespace references v.site) rest := rfl
    rw [step, ih, lookup_referencesAt, Option.or_assoc, first]

/-- A reference conflicts with the type on record, if that is another one. -/
theorem referTo_conflict_iff {fullName first : String} :
    (references.referTo fullName).2 = some first ↔
      references.lookup (simpleName fullName) = some first ∧ first ≠ fullName := by
  cases found : references.lookup (simpleName fullName) with
  | none => simp [referTo_new found]
  | some previous =>
    rw [referTo_old found]
    by_cases same : previous = fullName
    · simp [same, eq_comm]
    · simp only [if_neg same, Option.some.injEq]
      constructor
      · rintro rfl
        exact ⟨rfl, same⟩
      · exact And.left

/-! ## Flaws -/

/-- What is wrong on a walk: the visits of which it is wrong, with their subjects. -/
inductive Flaw (words : ReservedWords) (localNamespace : String) (visits : List Visit) :
    Defect → Prop where
  /-- The name of a class, of a part of the namespace, of a parameter or of a variable, declared or
  read, is no identifier. -/
  | invalidBinding {name subject : String} (visited : ⟨.binding name, subject⟩ ∈ visits)
      (invalid : isIdentifier name = false) :
      Flaw words localNamespace visits ⟨.notIdentifier name, subject⟩
  /-- It is an identifier, but reserved. -/
  | reservedBinding {name subject : String} (visited : ⟨.binding name, subject⟩ ∈ visits)
      (valid : isIdentifier name = true) (reserved : words.contains .typescript name = true) :
      Flaw words localNamespace visits ⟨.reservedWord name, subject⟩
  /-- The name of a field, a property or a method, declared or used, is no identifier. It may be a
  reserved word. -/
  | invalidMember {name subject : String} (visited : ⟨.member name, subject⟩ ∈ visits)
      (invalid : isIdentifier name = false) :
      Flaw words localNamespace visits ⟨.notIdentifier name, subject⟩
  /-- A node does not belong where it stands. -/
  | misplaced {kind subject : String} (visited : ⟨.foreign kind, subject⟩ ∈ visits) :
      Flaw words localNamespace visits ⟨.unsupportedKind kind, subject⟩
  /-- A number is not finite. -/
  | nonFinite {value : Binary64} {subject : String} (visited : ⟨.number value, subject⟩ ∈ visits)
      (infinite : value.isFinite = false) :
      Flaw words localNamespace visits ⟨.nonFinite value, subject⟩
  /-- A type that must be imported has the simple name of one before it. The first one with this
  name, which is another type, is named in the report. -/
  | ambiguous {before after : List Visit} {fullName subject first : String}
      (visited : visits = before ++ ⟨.type fullName, subject⟩ :: after)
      (imported : isImported localNamespace fullName = true)
      (earlier : firstNamed localNamespace before (simpleName fullName) = some first)
      (differs : first ≠ fullName) :
      Flaw words localNamespace visits
        ⟨.ambiguousType (simpleName fullName) first fullName, subject⟩

/-- A defect that a walk meets is found at a visit, with what is on record before it. -/
theorem mem_defectsOn_iff_split {d : Defect} :
    d ∈ defectsOn words localNamespace references visits ↔
      ∃ before v after, visits = before ++ v :: after ∧ v.subject = d.subject ∧
        causeAt words localNamespace (referencesOn localNamespace references before) v.site =
          some d.cause := by
  constructor
  · intro met
    induction visits generalizing references with
    | nil => cases met
    | cons v rest ih =>
      rcases List.mem_append.mp met with here | later
      · obtain ⟨cause, found, rfl⟩ := Option.map_eq_some_iff.mp (Option.mem_toList.mp here)
        exact ⟨[], v, rest, rfl, rfl, found⟩
      · obtain ⟨before, w, after, split, subject, found⟩ := ih later
        exact ⟨v :: before, w, after, congrArg (v :: ·) split, subject, found⟩
  · rintro ⟨before, v, after, rfl, subject, found⟩
    rw [defectsOn_append, defectsOn, found]
    refine List.mem_append_right _ (List.mem_append_left _ ?_)
    rw [subject]
    exact List.mem_cons_self

/-- **What a walk meets are its flaws.** -/
theorem mem_defectsOn_iff_flaw {d : Defect} :
    d ∈ defectsOn words localNamespace [] visits ↔ Flaw words localNamespace visits d := by
  rw [mem_defectsOn_iff_split]
  constructor
  · rintro ⟨before, ⟨site, subject⟩, after, split, same, found⟩
    obtain ⟨cause, _⟩ := d
    obtain rfl : subject = _ := same
    have visited : (⟨site, subject⟩ : Visit) ∈ visits :=
      split ▸ List.mem_append_right before List.mem_cons_self
    cases site with
    | member name =>
      simp only [causeAt] at found
      split at found
      · cases found
      · next invalid =>
        cases found
        exact .invalidMember visited (Bool.not_eq_true _ ▸ invalid)
    | binding name =>
      simp only [causeAt, nameCause] at found
      split at found
      · next valid =>
        split at found
        · next reserved =>
          cases found
          exact .reservedBinding visited valid reserved
        · cases found
      · next invalid =>
        cases found
        exact .invalidBinding visited (Bool.not_eq_true _ ▸ invalid)
    | number value =>
      simp only [causeAt, numberCause] at found
      split at found
      · cases found
      · next infinite =>
        cases found
        exact .nonFinite visited (Bool.not_eq_true _ ▸ infinite)
    | foreign kind =>
      cases found
      exact .misplaced visited
    | type fullName =>
      simp only [causeAt] at found
      split at found
      · next imported =>
        obtain ⟨first, conflict, rfl⟩ := Option.map_eq_some_iff.mp found
        obtain ⟨recorded, differs⟩ := referTo_conflict_iff.mp conflict
        rw [lookup_referencesOn] at recorded
        exact .ambiguous split imported recorded differs
      · cases found
  · intro flaw
    cases flaw with
    | invalidBinding visited invalid =>
      obtain ⟨before, after, split⟩ := List.append_of_mem visited
      exact ⟨before, _, after, split, rfl, by simp [causeAt, nameCause, invalid]⟩
    | reservedBinding visited valid reserved =>
      obtain ⟨before, after, split⟩ := List.append_of_mem visited
      exact ⟨before, _, after, split, rfl, by simp [causeAt, nameCause, valid, reserved]⟩
    | invalidMember visited invalid =>
      obtain ⟨before, after, split⟩ := List.append_of_mem visited
      exact ⟨before, _, after, split, rfl, by simp [causeAt, invalid]⟩
    | misplaced visited =>
      obtain ⟨before, after, split⟩ := List.append_of_mem visited
      exact ⟨before, _, after, split, rfl, rfl⟩
    | nonFinite visited infinite =>
      obtain ⟨before, after, split⟩ := List.append_of_mem visited
      exact ⟨before, _, after, split, rfl, by simp [causeAt, numberCause, infinite]⟩
    | @ambiguous before after fullName subject first visited imported earlier differs =>
      have recorded : (referencesOn localNamespace [] before).lookup (simpleName fullName) =
          some first := by
        rw [lookup_referencesOn]
        exact earlier
      have conflict := referTo_conflict_iff.mpr ⟨recorded, differs⟩
      exact ⟨before, _, after, visited, rfl, by simp [causeAt, imported, conflict]⟩

/-! ## Emissions -/

/-- **TypeScript emission reports exactly the flaws of the tree.** The emission of a namespace is
refused exactly if there is a flaw on its walk, and the codes, subjects and messages that it is
refused with are those of the flaws. An ambiguous type name is among them exactly if two types that
must be imported have one simple name. -/
theorem emitNamespace_refused (words : ReservedWords) (n : Namespace) (emitter : TypeScriptEmitter)
    (plain : n.HasPlainNames) :
    let result := ((TypeScriptEmitter.emitNamespace (.ok words) n).run emitter).1
    let flaw := Flaw words n.name n.declarationVisits
    ((∃ failure, result = .error failure) ↔ ∃ d, flaw d) ∧
      (∀ failure, result = .error failure → ∃ defects, failure = .rejected defects ∧
        ∀ identity, identity ∈ defects.map Defect.identity ↔ ∃ d, flaw d ∧ d.identity = identity) ∧
      ((∃ d, flaw d ∧ d.IsConflict) ↔ Conflict (Uses n.name n.declarationVisits)) := by
  intro result flaw
  have outcome : result = _ := outcome_emit (@performs_namespaceNodes words n) n.name emitter
  have met : ∀ d, d ∈ defectsOn words n.name [] n.declarationVisits ↔ flaw d :=
    fun _ => mem_defectsOn_iff_flaw
  refine ⟨?refused, ?reports, ?conflict⟩
  case refused =>
    rw [outcome]
    by_cases clean : defectsOn words n.name [] n.declarationVisits = []
    · simp [← met, clean]
    · simp only [if_neg clean, Except.error.injEq, exists_eq', true_iff, ← met]
      exact List.exists_mem_of_ne_nil _ clean
  case reports =>
    intro failure failed
    have reported : reports result = firstReports (defectsOn words n.name [] n.declarationVisits) :=
      TypeScript.reports_emitNamespace words plain emitter
    obtain ⟨defects, rejected⟩ : ∃ defects, failure = .rejected defects := by
      rw [outcome] at failed
      split at failed
      · cases failed
      · exact ⟨_, (Except.error.inj failed).symm⟩
    rw [failed, rejected] at reported
    refine ⟨defects, rejected, fun identity => ?_⟩
    have same : defects = firstReports (defectsOn words n.name [] n.declarationVisits) := reported
    rw [same, mem_identities_firstReports]
    simp only [List.mem_map, met]
  case conflict =>
    rw [← exists_conflict_iff words]
    simp only [met]

/-- A namespace under a reserved name. A member has a reserved name too, one number is infinite, and
three fields have types with one simple name, the first and the last of which are the same. -/
def unsound : Namespace where
  name := "function"
  imports := []
  types := [{
    name := "A"
    members := [
      .field { name := "delete", type := .plain "B.T" },
      .field { name := "x", type := .plain "C.T" },
      .field {
        name := "y"
        type := .plain "B.T"
        initializer := some (.literal (.number (.infinity false))) }] }]

/-- The reserved name of the member is accepted, and of the three types only the one in the middle
is reported, with the first. -/
theorem emitNamespace_refused_unsound :
    unsound.HasPlainNames ∧
      ∃ defects, ((TypeScriptEmitter.emitNamespace (.ok .standard) unsound).run {}).1 =
          .error (.rejected defects) ∧
        ∀ identity, identity ∈ defects.map Defect.identity ↔ identity ∈ [
          (.unsupportedNode, "A.x", "Type name \"T\" refers to both B.T and C.T"),
          (.unsupportedNode, "A.y", "Cannot emit non-finite number Infinity"),
          (.invalidIdentifier, "function", "\"function\" is a reserved word")] := by
  have plain : unsound.HasPlainNames := by
    simp [unsound, Namespace.HasPlainNames, ClassDecl.HasPlainNames, IsPlain, Member.name]
  have found : (defectsOn .standard "function" [] unsound.declarationVisits).map Defect.identity = [
      (.unsupportedNode, "A.x", "Type name \"T\" refers to both B.T and C.T"),
      (.unsupportedNode, "A.y", "Cannot emit non-finite number Infinity"),
      (.invalidIdentifier, "function", "\"function\" is a reserved word")] := by
    decide +kernel
  have flaws : ∀ identity, (∃ d, Flaw .standard "function" unsound.declarationVisits d ∧
      d.identity = identity) ↔ identity ∈ (defectsOn .standard "function" []
        unsound.declarationVisits).map Defect.identity := by
    intro identity
    simp only [List.mem_map, mem_defectsOn_iff_flaw]
  obtain ⟨refused, reports, _⟩ := emitNamespace_refused .standard unsound {} plain
  obtain ⟨d, met⟩ : ∃ d, d ∈ defectsOn .standard "function" [] unsound.declarationVisits :=
    List.exists_mem_of_ne_nil _ fun none => by
      rw [none] at found
      cases found
  obtain ⟨failure, failed⟩ := refused.mpr ⟨d, mem_defectsOn_iff_flaw.mp met⟩
  obtain ⟨defects, rfl, same⟩ := reports failure failed
  refine ⟨plain, defects, failed, fun identity => ?_⟩
  rw [← found, ← flaws]
  exact same identity

end ServiceWriter.TypeScript

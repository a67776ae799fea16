import ServiceWriter.Proofs.Walk.CSharp
import ServiceWriter.Proofs.Walk.TypeScript

/-!
# Where the two emitters agree

The emitters hold a tree to the same rules except for reserved words and ambiguous type names: what
they find otherwise (`Cause.isCommon`) depends on the visits alone (`commonOn`). The reports of the
two agree on it, since code and message of a report tell whether it is of this sort
(`Cause.isCommon_eq_looksCommon`), and so a report of this sort is never dropped in favour of
another.
-/

set_option autoImplicit false

namespace ServiceWriter

open Text

/-! ## Common causes -/

namespace Cause

/-- What is wrong in either language: no identifier, a foreign node, or a number without a literal.
-/
def isCommon : Cause → Bool
  | .notIdentifier _ | .unsupportedKind _ | .nonFinite _ => true
  | _ => false

/-- The causes that are found at the visits of a tree. -/
def isFound : Cause → Bool
  | .notIdentifier _ | .reservedWord _ | .unsupportedKind _ | .nonFinite _ | .ambiguousType .. => true
  | _ => false

/-- Whether a report reads like one with a common cause: the message ends with "identifier" and not
with "word", or does not begin with "Type name". -/
def looksCommon (code : DefectCode) (message : String) : Bool :=
  match code with
  | .invalidIdentifier => message.toList.getLast? = some 'r'
  | _ => message.toList.head? ≠ some 'T'

theorem getLast?_toList_append (text : String) {tail : String} {c : Char}
    (last : tail.toList.getLast? = some c) : (text ++ tail).toList.getLast? = some c := by
  rw [String.toList_append, List.getLast?_append, last]
  rfl

theorem head?_toList_append {head : String} (text : String) {c : Char}
    (first : head.toList.head? = some c) : (head ++ text).toList.head? = some c := by
  rw [String.toList_append, List.head?_append, first]
  rfl

/-- **Code and message tell whether a cause is common.** -/
theorem isCommon_eq_looksCommon {cause : Cause} (found : cause.isFound) :
    cause.isCommon = looksCommon cause.code cause.message := by
  cases cause with
  | notIdentifier name =>
    have last : (message (.notIdentifier name)).toList.getLast? = some 'r' :=
      getLast?_toList_append _ (by decide)
    simp only [isCommon, code, looksCommon, last, decide_true]
  | reservedWord name =>
    have last : (message (.reservedWord name)).toList.getLast? = some 'd' :=
      getLast?_toList_append _ (by decide)
    simp only [isCommon, code, looksCommon, last]
    decide
  | unsupportedKind kind =>
    have first : (message (.unsupportedKind kind)).toList.head? = some 'U' :=
      head?_toList_append kind (by decide)
    simp only [isCommon, code, looksCommon, first]
    decide
  | nonFinite number =>
    have first : (message (.nonFinite number)).toList.head? = some 'C' :=
      head?_toList_append number.text (by decide)
    simp only [isCommon, code, looksCommon, first]
    decide
  | ambiguousType name first second =>
    have split : message (.ambiguousType name first second) =
        "Type name " ++ (quoted name ++ (" refers to both " ++ (first ++ (" and " ++ second)))) := by
      have words : message (.ambiguousType name first second) =
          "Type name " ++ quoted name ++ " refers to both " ++ first ++ " and " ++ second := rfl
      simp only [words, String.append_assoc]
    have first : (message (.ambiguousType name first second)).toList.head? = some 'T' :=
      split ▸ head?_toList_append _ (by decide)
    simp only [isCommon, code, looksCommon, first]
    decide
  | _ => cases found

end Cause

/-! ## Common defects of a walk -/

/-- The common cause at a site, if there is one. -/
def commonCause : Site → Option Cause
  | .member name | .binding name =>
    if isIdentifier name then none else some (.notIdentifier name)
  | .number value => numberCause value
  | .foreign kind => some (.unsupportedKind kind)
  | .type _ => none

/-- The common defects met on a walk. -/
def commonOn (visits : List Visit) : List Defect :=
  visits.filterMap fun v => (commonCause v.site).map (⟨·, v.subject⟩)

theorem commonOn_append (visits visits' : List Visit) :
    commonOn (visits ++ visits') = commonOn visits ++ commonOn visits' :=
  List.filterMap_append

theorem isCommon_of_nameCause {words : ReservedWords} {language : Language} (name : String) :
    (nameCause words language name).filter Cause.isCommon =
      if isIdentifier name then none else some (.notIdentifier name) := by
  unfold nameCause
  by_cases valid : isIdentifier name
  · by_cases reserved : words.contains language name
    · simp [valid, reserved, Cause.isCommon]
    · simp [valid, reserved]
  · simp [valid, Cause.isCommon]

theorem isCommon_of_numberCause (value : Binary64) :
    (numberCause value).filter Cause.isCommon = numberCause value := by
  unfold numberCause
  by_cases finite : value.isFinite
  · simp [finite]
  · simp [finite, Cause.isCommon]

theorem CSharp.filter_causeAt (words : ReservedWords) (site : Site) :
    (CSharp.causeAt words site).filter Cause.isCommon = commonCause site := by
  cases site with
  | member name | binding name => exact isCommon_of_nameCause name
  | number value => exact isCommon_of_numberCause value
  | foreign kind => rfl
  | type fullName => rfl

theorem TypeScript.filter_causeAt (words : ReservedWords) (localNamespace : String)
    (references : References) (site : Site) :
    (TypeScript.causeAt words localNamespace references site).filter Cause.isCommon =
      commonCause site := by
  cases site with
  | member name =>
    unfold TypeScript.causeAt commonCause
    by_cases valid : isIdentifier name
    · simp [valid]
    · simp [valid, Cause.isCommon]
  | binding name => exact isCommon_of_nameCause name
  | number value => exact isCommon_of_numberCause value
  | foreign kind => rfl
  | type fullName =>
    simp only [TypeScript.causeAt, commonCause]
    split
    · cases (references.referTo fullName).2 with
      | none => rfl
      | some previous => rfl
    · rfl

/-- A defect with a common cause. -/
def Defect.isCommon (d : Defect) : Bool := d.cause.isCommon

theorem filter_report (cause : Option Cause) (subject : String) :
    (cause.map (Defect.mk · subject)).filter Defect.isCommon =
      (cause.filter Cause.isCommon).map (⟨·, subject⟩) :=
  Option.filter_map

/-- In C# the common defects are those of the walk. -/
theorem CSharp.filter_defectsOn (words : ReservedWords) (visits : List Visit) :
    (CSharp.defectsOn words visits).filter Defect.isCommon = commonOn visits := by
  simp only [CSharp.defectsOn, commonOn, List.filter_filterMap, filter_report,
    CSharp.filter_causeAt]

/-- In TypeScript the common defects are those of the walk, whatever has been referred to. -/
theorem TypeScript.filter_defectsOn (words : ReservedWords) (localNamespace : String)
    (references : References) (visits : List Visit) :
    (TypeScript.defectsOn words localNamespace references visits).filter Defect.isCommon =
      commonOn visits := by
  induction visits generalizing references with
  | nil => rfl
  | cons v rest ih =>
    have here := filter_report (TypeScript.causeAt words localNamespace references v.site) v.subject
    rw [TypeScript.filter_causeAt] at here
    rw [TypeScript.defectsOn, List.filter_append, ih, ← Option.toList_filter, here]
    cases found : commonCause v.site with
    | none => simp [commonOn, found]
    | some cause => simp [commonOn, found]

/-! ## Common reports -/

theorem isFound_of_nameCause {words : ReservedWords} {language : Language} {name : String}
    {cause : Cause} (found : nameCause words language name = some cause) : cause.isFound := by
  unfold nameCause at found
  split at found
  · split at found
    · cases found
      rfl
    · cases found
  · cases found
    rfl

theorem isFound_of_numberCause {value : Binary64} {cause : Cause}
    (found : numberCause value = some cause) : cause.isFound := by
  unfold numberCause at found
  split at found
  · cases found
  · cases found
    rfl

theorem CSharp.isFound_of_causeAt {words : ReservedWords} {site : Site} {cause : Cause}
    (found : CSharp.causeAt words site = some cause) : cause.isFound := by
  cases site with
  | member name | binding name => exact isFound_of_nameCause found
  | number value => exact isFound_of_numberCause found
  | foreign kind =>
    cases found
    rfl
  | type fullName => cases found

theorem TypeScript.isFound_of_causeAt {words : ReservedWords} {localNamespace : String}
    {references : References} {site : Site} {cause : Cause}
    (found : TypeScript.causeAt words localNamespace references site = some cause) :
    cause.isFound := by
  cases site with
  | member name =>
    simp only [TypeScript.causeAt] at found
    split at found
    · cases found
    · cases found
      rfl
  | binding name => exact isFound_of_nameCause found
  | number value => exact isFound_of_numberCause found
  | foreign kind =>
    cases found
    rfl
  | type fullName =>
    simp only [TypeScript.causeAt] at found
    split at found
    · obtain ⟨previous, _, rfl⟩ := Option.map_eq_some_iff.mp found
      rfl
    · cases found

/-- Defects that are reported alike are common alike. -/
theorem isCommon_of_identity {d e : Defect} (found : d.cause.isFound) (found' : e.cause.isFound)
    (same : d.identity = e.identity) : d.isCommon = e.isCommon := by
  simp only [Defect.identity, Prod.mk.injEq] at same
  unfold Defect.isCommon
  rw [Cause.isCommon_eq_looksCommon found, Cause.isCommon_eq_looksCommon found']
  exact congrArg₂ Cause.looksCommon same.1 same.2.2

/-- The common reports are the reports of the common defects. -/
theorem filter_reports {ds : List Defect} (found : ∀ d ∈ ds, d.cause.isFound) :
    (firstReports ds).filter Defect.isCommon = firstReports (ds.filter Defect.isCommon) :=
  filter_firstReports fun d member e member' =>
    isCommon_of_identity (found d member) (found e member')

theorem CSharp.filter_firstReports {words : ReservedWords} {visits : List Visit} :
    (firstReports (CSharp.defectsOn words visits)).filter Defect.isCommon =
      firstReports (commonOn visits) := by
  rw [filter_reports, CSharp.filter_defectsOn]
  intro d member
  obtain ⟨v, _, found, _⟩ := CSharp.exists_visit_of_mem member
  exact CSharp.isFound_of_causeAt found

theorem TypeScript.isFound_of_mem {words : ReservedWords} {localNamespace : String}
    {references : References} {visits : List Visit} {d : Defect}
    (member : d ∈ TypeScript.defectsOn words localNamespace references visits) :
    d.cause.isFound := by
  obtain ⟨v, _, _, found, _⟩ := TypeScript.exists_visit_of_mem member
  exact TypeScript.isFound_of_causeAt found

theorem TypeScript.filter_firstReports {words : ReservedWords} {localNamespace : String}
    {references : References} {visits : List Visit} :
    (firstReports (TypeScript.defectsOn words localNamespace references visits)).filter
        Defect.isCommon =
      firstReports (commonOn visits) := by
  rw [filter_reports fun _ => TypeScript.isFound_of_mem, TypeScript.filter_defectsOn]

/-! ## Agreement -/

/-- What is wrong in TypeScript alone: the reserved name of a binding, or an ambiguous type name. -/
def IsTypeScriptOnly (visits : List Visit) (d : Defect) : Prop :=
  (∃ name, d.cause = .reservedWord name ∧ ⟨.binding name, d.subject⟩ ∈ visits) ∨
    ∃ name first second, d.cause = .ambiguousType name first second

theorem IsTypeScriptOnly.mono {visits visits' : List Visit} {d : Defect}
    (only : IsTypeScriptOnly visits d) (among : ∀ v ∈ visits, v ∈ visits') :
    IsTypeScriptOnly visits' d := by
  rcases only with ⟨name, cause, member⟩ | ambiguous
  · exact .inl ⟨name, cause, among _ member⟩
  · exact .inr ambiguous

/-- The walk of TypeScript is part of the walk of C#. -/
theorem Namespace.walked_in_typeScript (n : Namespace) :
    ∀ v ∈ n.declarationVisits, v ∈ n.visits := by
  intro v member
  rcases List.mem_append.mp member with member | member
  · exact List.mem_append_right _ member
  · exact List.mem_append_left _ (List.mem_append_right _ member)

/-- The parts of the imports that are no identifiers, each a defect of its import. -/
def Namespace.importDefects (n : Namespace) : List Defect :=
  n.imports.flatMap fun imported =>
    ((dottedParts imported).filter fun part => !isIdentifier part).map
      fun part => ⟨.notIdentifier part, imported⟩

theorem commonOn_dottedVisits (name : String) :
    commonOn (dottedVisits name) =
      ((dottedParts name).filter fun part => !isIdentifier part).map
        fun part => ⟨.notIdentifier part, name⟩ := by
  unfold dottedVisits
  induction dottedParts name with
  | nil => rfl
  | cons part rest ih =>
    rw [List.map_cons, visitsOf_cons, commonOn_append, ih]
    by_cases valid : isIdentifier part
    · simp [commonOn, visitsOf, commonCause, valid]
    · simp [commonOn, visitsOf, commonCause, valid]

theorem commonOn_importVisits (n : Namespace) : commonOn n.importVisits = n.importDefects := by
  unfold Namespace.importVisits Namespace.importDefects
  induction n.imports with
  | nil => rfl
  | cons imported rest ih =>
    rw [List.flatMap_cons, commonOn_append, commonOn_dottedVisits, ih, List.flatMap_cons]

/-- What is not common in TypeScript is found in TypeScript only. -/
theorem TypeScript.isTypeScriptOnly_of_mem {words : ReservedWords} {localNamespace : String}
    {references : References} {visits : List Visit} {d : Defect}
    (member : d ∈ TypeScript.defectsOn words localNamespace references visits)
    (apart : d.isCommon = false) : IsTypeScriptOnly visits d := by
  obtain ⟨v, inside, references', found, same⟩ := TypeScript.exists_visit_of_mem member
  unfold Defect.isCommon at apart
  obtain ⟨site, subject⟩ := v
  obtain rfl : subject = d.subject := same
  cases site with
  | member name =>
    simp only [TypeScript.causeAt] at found
    split at found
    · cases found
    · rw [← Option.some.inj found] at apart
      cases apart
  | binding name =>
    simp only [TypeScript.causeAt, nameCause] at found
    split at found
    · split at found
      · exact .inl ⟨name, (Option.some.inj found).symm, inside⟩
      · cases found
    · rw [← Option.some.inj found] at apart
      cases apart
  | number value =>
    simp only [TypeScript.causeAt, numberCause] at found
    split at found
    · cases found
    · rw [← Option.some.inj found] at apart
      cases apart
  | foreign kind =>
    simp only [TypeScript.causeAt] at found
    rw [← Option.some.inj found] at apart
    cases apart
  | type fullName =>
    simp only [TypeScript.causeAt] at found
    split at found
    · obtain ⟨previous, _, cause⟩ := Option.map_eq_some_iff.mp found
      exact .inr ⟨_, _, _, cause.symm⟩
    · cases found

theorem CSharp.reports_emitType (words : ReservedWords) {c : ClassDecl} (plain : c.HasPlainNames)
    (imports : List String) (emitter : CSharpEmitter) :
    reports ((CSharpEmitter.emitType (.ok words) c imports).run emitter).1 =
      firstReports (CSharp.defectsOn words c.visits) := by
  have subjects : ∀ d ∈ CSharp.defectsOn words c.visits, IsPlain d.subject :=
    fun _ => CSharp.isPlain_of_mem fun _ => c.isPlain_subject plain
  rw [CSharpEmitter.emitType, CSharp.reports_emit (CSharp.performs_classDecl c)]
  exact Collector.defects_addAll_empty subjects

theorem CSharp.reports_emitNamespace (words : ReservedWords) {n : Namespace}
    (plain : n.HasPlainNames) (emitter : CSharpEmitter) :
    reports ((CSharpEmitter.emitNamespace (.ok words) n).run emitter).1 =
      firstReports (CSharp.defectsOn words n.visits) := by
  have subjects : ∀ d ∈ CSharp.defectsOn words n.visits, IsPlain d.subject :=
    fun _ => CSharp.isPlain_of_mem fun _ => n.isPlain_subject plain
  rw [CSharpEmitter.emitNamespace, CSharp.reports_emit (CSharp.performs_namespaceDecl n)]
  exact Collector.defects_addAll_empty subjects

theorem TypeScript.reports_emitType (words : ReservedWords) {c : ClassDecl}
    (plain : c.HasPlainNames) (emitter : TypeScriptEmitter) :
    reports ((TypeScriptEmitter.emitType (.ok words) c).run emitter).1 =
      firstReports (TypeScript.defectsOn words "" [] c.visits) := by
  have subjects : ∀ d ∈ TypeScript.defectsOn words "" [] c.visits, IsPlain d.subject :=
    fun _ => TypeScript.isPlain_of_mem fun _ => c.isPlain_subject plain
  rw [TypeScriptEmitter.emitType,
    TypeScript.reports_emit (TypeScript.performs_classNodes_singleton c)]
  exact Collector.defects_addAll_empty subjects

theorem TypeScript.reports_emitNamespace (words : ReservedWords) {n : Namespace}
    (plain : n.HasPlainNames) (emitter : TypeScriptEmitter) :
    reports ((TypeScriptEmitter.emitNamespace (.ok words) n).run emitter).1 =
      firstReports (TypeScript.defectsOn words n.name [] n.declarationVisits) := by
  have walked : ∀ v ∈ n.declarationVisits, IsPlain v.subject :=
    fun v member => n.isPlain_subject plain (n.walked_in_typeScript v member)
  have subjects : ∀ d ∈ TypeScript.defectsOn words n.name [] n.declarationVisits,
      IsPlain d.subject :=
    fun _ => TypeScript.isPlain_of_mem walked
  rw [TypeScriptEmitter.emitNamespace,
    TypeScript.reports_emit (TypeScript.performs_namespaceNodes n)]
  exact Collector.defects_addAll_empty subjects

theorem mem_common_namespace {n : Namespace} {identity : DefectCode × String × String} :
    identity ∈ (commonOn n.visits).map Defect.identity ↔
      identity ∈ (commonOn n.declarationVisits).map Defect.identity ∨
        identity ∈ n.importDefects.map Defect.identity := by
  rw [← commonOn_importVisits, Namespace.visits, Namespace.declarationVisits]
  simp only [commonOn_append, List.map_append, List.mem_append]
  constructor
  · rintro ((member | member) | member)
    · exact .inr member
    · exact .inl (.inr member)
    · exact .inl (.inl member)
  · rintro ((member | member) | member)
    · exact .inr member
    · exact .inl (.inr member)
    · exact .inl (.inl member)

/-- For a class alone the common reports are the same. -/
theorem filter_reports_emitType (words : ReservedWords) {c : ClassDecl} (plain : c.HasPlainNames)
    (imports : List String) (emitter : CSharpEmitter) (emitter' : TypeScriptEmitter) :
    (reports ((CSharpEmitter.emitType (.ok words) c imports).run emitter).1).filter
        Defect.isCommon =
      (reports ((TypeScriptEmitter.emitType (.ok words) c).run emitter').1).filter
        Defect.isCommon := by
  rw [CSharp.reports_emitType words plain, TypeScript.reports_emitType words plain,
    CSharp.filter_firstReports, TypeScript.filter_firstReports]

/-- For a namespace the common reports are the same but for the imports. -/
theorem mem_reports_emitNamespace (words : ReservedWords) {n : Namespace}
    (plain : n.HasPlainNames) (emitter : CSharpEmitter) (emitter' : TypeScriptEmitter)
    (identity : DefectCode × String × String) :
    identity ∈ ((reports ((CSharpEmitter.emitNamespace (.ok words) n).run emitter).1).filter
        Defect.isCommon).map Defect.identity ↔
      identity ∈ ((reports ((TypeScriptEmitter.emitNamespace (.ok words) n).run emitter').1).filter
        Defect.isCommon).map Defect.identity ∨
        identity ∈ n.importDefects.map Defect.identity := by
  rw [CSharp.reports_emitNamespace words plain, TypeScript.reports_emitNamespace words plain,
    CSharp.filter_firstReports, TypeScript.filter_firstReports, mem_identities_firstReports,
    mem_identities_firstReports, mem_common_namespace]

/-- **The two emitters agree on what is wrong with a tree**, apart from reserved words and ambiguous
type names. For a class alone they give the same common reports in the same order. For a namespace
C# gives those that TypeScript gives and, besides, those of the imports, which TypeScript does not
look at. So what C# accepts is refused in TypeScript only over the reserved name of a binding or an
ambiguous type name. -/
theorem emitters_agree (words : ReservedWords) (emitter : CSharpEmitter)
    (emitter' : TypeScriptEmitter) :
    (∀ (c : ClassDecl) (imports : List String), c.HasPlainNames →
      let inCSharp := ((CSharpEmitter.emitType (.ok words) c imports).run emitter).1
      let inTypeScript := ((TypeScriptEmitter.emitType (.ok words) c).run emitter').1
      (reports inCSharp).filter Defect.isCommon = (reports inTypeScript).filter Defect.isCommon ∧
        (∀ text, inCSharp = .ok text → ∀ d ∈ reports inTypeScript, IsTypeScriptOnly c.visits d)) ∧
    (∀ n : Namespace, n.HasPlainNames →
      let inCSharp := ((CSharpEmitter.emitNamespace (.ok words) n).run emitter).1
      let inTypeScript := ((TypeScriptEmitter.emitNamespace (.ok words) n).run emitter').1
      (∀ identity, identity ∈ ((reports inCSharp).filter Defect.isCommon).map Defect.identity ↔
        identity ∈ ((reports inTypeScript).filter Defect.isCommon).map Defect.identity ∨
          identity ∈ n.importDefects.map Defect.identity) ∧
        (∀ text, inCSharp = .ok text →
          ∀ d ∈ reports inTypeScript, IsTypeScriptOnly n.visits d)) := by
  constructor
  · intro c imports plain inCSharp inTypeScript
    have same : (reports inCSharp).filter Defect.isCommon =
        (reports inTypeScript).filter Defect.isCommon :=
      filter_reports_emitType words plain imports emitter emitter'
    refine ⟨same, fun text accepted d member => ?_⟩
    have apart : d.isCommon = false := by
      rw [accepted] at same
      exact Bool.not_eq_true _ ▸ List.filter_eq_nil_iff.mp same.symm d member
    have given : d ∈ firstReports (TypeScript.defectsOn words "" [] c.visits) :=
      TypeScript.reports_emitType words plain emitter' ▸ member
    exact TypeScript.isTypeScriptOnly_of_mem (mem_of_mem_firstReports given) apart
  · intro n plain inCSharp inTypeScript
    have same := mem_reports_emitNamespace words plain emitter emitter'
    refine ⟨same, fun text accepted d member => ?_⟩
    have apart : d.isCommon = false := by
      by_contra common
      have inside := (same d.identity).mpr (.inl (List.mem_map_of_mem
        (List.mem_filter.mpr ⟨member, Bool.not_eq_false _ ▸ common⟩)))
      -- nothing is reported for what is accepted
      change d.identity ∈ ((reports inCSharp).filter Defect.isCommon).map Defect.identity at inside
      rw [accepted] at inside
      cases inside
    have given : d ∈ firstReports (TypeScript.defectsOn words n.name [] n.declarationVisits) :=
      TypeScript.reports_emitNamespace words plain emitter' ▸ member
    have only := TypeScript.isTypeScriptOnly_of_mem (mem_of_mem_firstReports given) apart
    exact only.mono n.walked_in_typeScript

/-- A class with a parameter whose name is reserved in TypeScript only. -/
def deleting : ClassDecl where
  name := "A"
  members := [.method {
    name := "m"
    returnType := .plain "System.Void"
    parameters := [⟨"delete", .plain "System.String"⟩] }]

/-- In a namespace, such a class is accepted by C#, and what TypeScript refuses it for is of the
sort that only TypeScript finds. -/
theorem emitters_agree_deleting :
    deleting.HasPlainNames ∧
      (reports ((CSharpEmitter.emitType (.ok .standard) deleting []).run {}).1).filter
          Defect.isCommon =
        (reports ((TypeScriptEmitter.emitType (.ok .standard) deleting).run {}).1).filter
          Defect.isCommon ∧
      (Namespace.mk "N" [] [deleting]).HasPlainNames ∧
      (∃ text, ((CSharpEmitter.emitNamespace (.ok .standard) ⟨"N", [], [deleting]⟩).run {}).1 =
        .ok text) ∧
      ∀ d ∈ reports
          ((TypeScriptEmitter.emitNamespace (.ok .standard) ⟨"N", [], [deleting]⟩).run {}).1,
        IsTypeScriptOnly (Namespace.mk "N" [] [deleting]).visits d := by
  have plain : deleting.HasPlainNames := by
    simp [deleting, ClassDecl.HasPlainNames, IsPlain, Member.name]
  have plain' : (Namespace.mk "N" [] [deleting]).HasPlainNames := by
    simp [Namespace.HasPlainNames, plain, IsPlain]
  have clean : CSharp.defectsOn .standard (Namespace.mk "N" [] [deleting]).visits = [] := by
    decide +kernel
  have accepted : ((CSharpEmitter.emitNamespace (.ok .standard) ⟨"N", [], [deleting]⟩).run {}).1 =
      _ := congrArg Prod.fst (CSharp.run_emit (CSharp.performs_namespaceDecl _) {})
  rw [clean] at accepted
  have agree := emitters_agree .standard {} {}
  exact ⟨plain, (agree.1 deleting [] plain).1, plain', ⟨_, accepted⟩,
    (agree.2 ⟨"N", [], [deleting]⟩ plain').2 _ accepted⟩

end ServiceWriter

import ServiceWriter.Proofs.Walk.TypeScript
import Mathlib.Data.List.Nodup

/-!
# References recorded on a walk

The references that a walk records are those to the types it visits, each under its simple name and
no simple name twice (`Records.referencesOn`). A type that is visited and not recorded has its
simple name taken by another one, and that is when the walk meets an ambiguous type name: it meets
one exactly if two different types with one simple name are visited (`exists_conflict_iff`).
-/

set_option autoImplicit false

namespace ServiceWriter

open Text

/-- A defect about an ambiguous type name. -/
def Defect.IsConflict (d : Defect) : Prop :=
  ∃ name first second, d.cause = .ambiguousType name first second

namespace TypeScript

/-! ## Types in use -/

/-- Whether a type is visited that must be imported. -/
def Uses (localNamespace : String) (visits : List Visit) (fullName : String) : Prop :=
  isImported localNamespace fullName = true ∧ ∃ v ∈ visits, v.site = .type fullName

/-- Two of the types have one simple name. -/
def Conflict (used : String → Prop) : Prop :=
  ∃ first second, used first ∧ used second ∧ simpleName first = simpleName second ∧ first ≠ second

/-- References to types in use, each under its simple name, and no simple name twice. -/
structure Records (used : String → Prop) (references : References) : Prop where
  named : ∀ entry ∈ references, entry.1 = simpleName entry.2
  used : ∀ entry ∈ references, used entry.2
  once : (references.map Prod.fst).Nodup

variable {used : String → Prop} {references : References} {localNamespace : String}
  {words : ReservedWords} {visits : List Visit}

/-! ## One reference -/

theorem referTo_new {fullName : String} (free : references.lookup (simpleName fullName) = none) :
    references.referTo fullName = (references ++ [(simpleName fullName, fullName)], none) := by
  simp only [References.referTo, free]

theorem referTo_old {fullName previous : String}
    (taken : references.lookup (simpleName fullName) = some previous) :
    references.referTo fullName =
      (references, if previous = fullName then none else some previous) := by
  simp only [References.referTo, taken]

theorem mem_of_lookup {name fullName : String} (found : references.lookup name = some fullName) :
    (name, fullName) ∈ references := by
  obtain ⟨before, after, split, _⟩ := List.lookup_eq_some_iff.mp found
  rw [split]
  exact List.mem_append_right before List.mem_cons_self

theorem Records.nil : Records used [] where
  named _ member := nomatch member
  used _ member := nomatch member
  once := List.nodup_nil

/-- A simple name stands for one type. -/
theorem Records.unique {name first second : String} (records : Records used references)
    (entry : (name, first) ∈ references) (entry' : (name, second) ∈ references) :
    first = second := by
  have same := List.inj_on_of_nodup_map records.once entry entry' rfl
  exact congrArg Prod.snd same

theorem Records.referTo {fullName : String} (records : Records used references)
    (inUse : used fullName) : Records used (references.referTo fullName).1 := by
  cases found : references.lookup (simpleName fullName) with
  | some previous =>
    rw [referTo_old found]
    exact records
  | none =>
    rw [referTo_new found]
    have free : ∀ entry ∈ references, entry.1 ≠ simpleName fullName := by
      intro entry member same
      have differs := List.lookup_eq_none_iff.mp found entry member
      exact bne_iff_ne.mp differs same.symm
    refine ⟨?named, ?used, ?once⟩
    case named =>
      intro entry member
      rcases List.mem_append.mp member with member | member
      · exact records.named entry member
      · rw [List.mem_singleton.mp member]
    case used =>
      intro entry member
      rcases List.mem_append.mp member with member | member
      · exact records.used entry member
      · rw [List.mem_singleton.mp member]
        exact inUse
    case once =>
      rw [List.map_append, List.nodup_append]
      refine ⟨records.once, List.pairwise_singleton _ _, ?_⟩
      intro name member name' member'
      obtain ⟨entry, inside, rfl⟩ := List.mem_map.mp member
      rw [List.mem_singleton.mp member']
      exact free entry inside

theorem mem_referTo {entry : String × String} (fullName : String) (member : entry ∈ references) :
    entry ∈ (references.referTo fullName).1 := by
  cases found : references.lookup (simpleName fullName) with
  | some previous =>
    rw [referTo_old found]
    exact member
  | none =>
    rw [referTo_new found]
    exact List.mem_append_left _ member

/-- A type is recorded unless its simple name is taken. -/
theorem mem_referTo_self {fullName : String}
    (quiet : (references.referTo fullName).2 = none) :
    (simpleName fullName, fullName) ∈ (references.referTo fullName).1 := by
  cases found : references.lookup (simpleName fullName) with
  | some previous =>
    rw [referTo_old found] at quiet ⊢
    by_cases same : previous = fullName
    · rw [← same]
      rw [← same] at found
      exact mem_of_lookup found
    · rw [if_neg same] at quiet
      cases quiet
  | none =>
    rw [referTo_new found]
    exact List.mem_append_right _ List.mem_cons_self

theorem Records.conflict {fullName previous : String} (records : Records used references)
    (loud : (references.referTo fullName).2 = some previous) :
    used previous ∧ simpleName previous = simpleName fullName ∧ previous ≠ fullName := by
  cases found : references.lookup (simpleName fullName) with
  | some other =>
    rw [referTo_old found] at loud
    by_cases same : other = fullName
    · rw [if_pos same] at loud
      cases loud
    · rw [if_neg same] at loud
      cases loud
      have entry := mem_of_lookup found
      exact ⟨records.used _ entry, (records.named _ entry).symm, same⟩
  | none =>
    rw [referTo_new found] at loud
    cases loud

/-! ## A walk -/

theorem Uses.cons {v : Visit} {fullName : String}
    (inUse : Uses localNamespace visits fullName) : Uses localNamespace (v :: visits) fullName := by
  obtain ⟨imported, w, inside, site⟩ := inUse
  exact ⟨imported, w, List.mem_cons_of_mem v inside, site⟩

theorem Records.referencesAt {v : Visit} (records : Records used references)
    (among : ∀ q, Uses localNamespace (v :: visits) q → used q) :
    Records used (referencesAt localNamespace references v.site) := by
  obtain ⟨site, subject⟩ := v
  cases site with
  | type fullName =>
    simp only [TypeScript.referencesAt]
    by_cases imported : isImported localNamespace fullName
    · rw [if_pos imported]
      exact records.referTo (among fullName ⟨imported, _, List.mem_cons_self, rfl⟩)
    · rw [if_neg imported]
      exact records
  | member _ | binding _ | number _ | foreign _ => exact records

/-- **What a walk records** are references to the types that it visits. -/
theorem Records.referencesOn (records : Records used references)
    (among : ∀ q, Uses localNamespace visits q → used q) :
    Records used (referencesOn localNamespace references visits) := by
  induction visits generalizing references with
  | nil => exact records
  | cons v rest ih => exact ih (records.referencesAt among) fun q inUse => among q inUse.cons

theorem mem_referencesAt {entry : String × String} (site : Site) (member : entry ∈ references) :
    entry ∈ referencesAt localNamespace references site := by
  cases site with
  | type fullName =>
    simp only [referencesAt]
    split
    · exact mem_referTo fullName member
    · exact member
  | member _ | binding _ | number _ | foreign _ => exact member

theorem mem_referencesOn {entry : String × String} (member : entry ∈ references) :
    entry ∈ referencesOn localNamespace references visits := by
  induction visits generalizing references with
  | nil => exact member
  | cons v rest ih => exact ih (mem_referencesAt v.site member)

/-- A walk that meets no ambiguous name records all types in use. -/
theorem mem_referencesOn_of_uses {fullName : String}
    (quiet : ∀ d ∈ defectsOn words localNamespace references visits, ¬ d.IsConflict)
    (inUse : Uses localNamespace visits fullName) :
    (simpleName fullName, fullName) ∈ referencesOn localNamespace references visits := by
  obtain ⟨imported, v, inside, site⟩ := inUse
  induction visits generalizing references with
  | nil => cases inside
  | cons w rest ih =>
    have later : ∀ d ∈ defectsOn words localNamespace
        (referencesAt localNamespace references w.site) rest, ¬ d.IsConflict :=
      fun d member => quiet d (List.mem_append_right _ member)
    rcases List.mem_cons.mp inside with rfl | inside
    · have silent : (references.referTo fullName).2 = none := by
        by_contra loud
        obtain ⟨previous, found⟩ := Option.ne_none_iff_exists'.mp loud
        refine quiet ⟨.ambiguousType (simpleName fullName) previous fullName, v.subject⟩
          (List.mem_append_left _ ?_) ⟨_, _, _, rfl⟩
        rw [site, causeAt, if_pos imported, found]
        exact List.mem_cons_self
      have recorded : (simpleName fullName, fullName) ∈
          referencesAt localNamespace references v.site := by
        rw [site, referencesAt, if_pos imported]
        exact mem_referTo_self silent
      change _ ∈ referencesOn localNamespace (referencesAt localNamespace references v.site) rest
      exact mem_referencesOn recorded
    · exact ih later inside

theorem of_causeAt_ambiguous {site : Site} {name first second : String}
    (found : causeAt words localNamespace references site =
      some (.ambiguousType name first second)) :
    site = .type second ∧ isImported localNamespace second = true ∧ simpleName second = name ∧
      (references.referTo second).2 = some first := by
  cases site with
  | type fullName =>
    simp only [causeAt] at found
    split at found
    · rename_i imported
      obtain ⟨previous, loud, cause⟩ := Option.map_eq_some_iff.mp found
      cases cause
      exact ⟨rfl, imported, rfl, loud⟩
    · cases found
  | member name =>
    simp only [causeAt] at found
    split at found <;> cases found
  | binding name =>
    simp only [causeAt, nameCause] at found
    split at found
    · split at found <;> cases found
    · cases found
  | number value =>
    simp only [causeAt, numberCause] at found
    split at found <;> cases found
  | foreign kind => cases found

/-- What an ambiguous name that a walk meets stands for: two types in use. -/
theorem conflict_of_mem {d : Defect} {name first second : String}
    (records : Records used references) (among : ∀ q, Uses localNamespace visits q → used q)
    (member : d ∈ defectsOn words localNamespace references visits)
    (cause : d.cause = .ambiguousType name first second) :
    used first ∧ used second ∧ simpleName first = name ∧ simpleName second = name ∧
      first ≠ second := by
  induction visits generalizing references with
  | nil => cases member
  | cons v rest ih =>
    rcases List.mem_append.mp member with here | later
    · obtain ⟨found, met, rfl⟩ := Option.map_eq_some_iff.mp (Option.mem_toList.mp here)
      obtain rfl : found = .ambiguousType name first second := cause
      obtain ⟨site, imported, rfl, loud⟩ := of_causeAt_ambiguous met
      obtain ⟨inUse, same, apart⟩ := records.conflict loud
      exact ⟨inUse, among second ⟨imported, v, List.mem_cons_self, site⟩, same, rfl, apart⟩
    · exact ih (records.referencesAt among) (fun q inUse => among q inUse.cons) later

/-- **A walk meets an ambiguous name** exactly if it visits two different types with one simple
name. -/
theorem exists_conflict_iff (words : ReservedWords) :
    (∃ d ∈ defectsOn words localNamespace [] visits, d.IsConflict) ↔
      Conflict (Uses localNamespace visits) := by
  constructor
  · rintro ⟨d, member, name, first, second, cause⟩
    obtain ⟨inUse, inUse', same, same', apart⟩ :=
      conflict_of_mem Records.nil (fun _ inUse => inUse) member cause
    exact ⟨first, second, inUse, inUse', same.trans same'.symm, apart⟩
  · rintro ⟨first, second, inUse, inUse', same, apart⟩
    by_contra quiet
    have silent : ∀ d ∈ defectsOn words localNamespace [] visits, ¬ d.IsConflict :=
      fun d member conflict => quiet ⟨d, member, conflict⟩
    have records : Records (Uses localNamespace visits) (referencesOn localNamespace [] visits) :=
      Records.nil.referencesOn fun _ inUse => inUse
    have entry := mem_referencesOn_of_uses silent inUse
    have entry' := mem_referencesOn_of_uses silent inUse'
    rw [same] at entry
    exact apart (records.unique entry entry')

end TypeScript

end ServiceWriter

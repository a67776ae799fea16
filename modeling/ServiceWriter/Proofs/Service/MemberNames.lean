import ServiceWriter.Service.Generator
import Mathlib.Data.List.Nodup
import Mathlib.Data.List.Induction

/-!
# Members that share a name

The check of a generated class goes through the names of the members once and finds those that occur
for the second time (`repeatedNames_eq`): each name that is shared, once (`mem_secondOccurrences_iff`,
`nodup_secondOccurrences`). So it passes exactly if no two members share a name
(`repeatedMembers_eq_nil_iff`). For the members of the ObjectToJson capability this is a condition on
three of its six names (`ObjectToJsonNames.AreDistinct`).
-/

set_option autoImplicit false

namespace ServiceWriter

/-! ## Second occurrences -/

/-- The names that stand, place by place, where they occur for the second time. -/
def secondOccurrences (names : List String) : List String :=
  names.zipIdx.filterMap fun (name, place) =>
    if (names.take place).count name = 1 then some name else none

theorem secondOccurrences_snoc (names : List String) (name : String) :
    secondOccurrences (names ++ [name]) =
      secondOccurrences names ++ if names.count name = 1 then [name] else [] := by
  rw [secondOccurrences, List.zipIdx_append, List.filterMap_append]
  congr 1
  · -- the places before the last one have the same names before them
    apply List.filterMap_congr
    rintro ⟨other, place⟩ member
    have within : place < names.length := by
      have := (List.mem_zipIdx member).2.1
      omega
    simp only [List.take_append_of_le_length (Nat.le_of_lt within)]
  · have before : (names ++ [name]).take names.length = names := by simp
    simp only [List.zipIdx_singleton, Nat.zero_add, List.filterMap_cons, List.filterMap_nil, before]
    by_cases second : names.count name = 1
    · rw [if_pos second, if_pos second]
    · rw [if_neg second, if_neg second]

/-- **A name occurs for the second time** exactly if it occurs twice or more. -/
theorem mem_secondOccurrences_iff {names : List String} {name : String} :
    name ∈ secondOccurrences names ↔ 2 ≤ names.count name := by
  induction names using List.reverseRecOn with
  | nil => simp [secondOccurrences]
  | append_singleton names last ih =>
    rw [secondOccurrences_snoc, List.mem_append, ih, List.count_append, List.count_singleton]
    by_cases same : last = name
    · subst same
      by_cases once : names.count last = 1
      · simp [once]
      · simp only [once, if_false, List.not_mem_nil, or_false, beq_self_eq_true, if_true]
        omega
    · have other : ¬ (last == name) = true := by simpa using same
      rw [if_neg other, Nat.add_zero]
      refine or_iff_left fun inside => ?_
      split at inside
      · exact same (List.mem_singleton.mp inside).symm
      · cases inside

theorem secondOccurrences_ne_nil_iff {names : List String} :
    secondOccurrences names ≠ [] ↔ ∃ name, 2 ≤ names.count name := by
  constructor
  · intro some
    obtain ⟨name, inside⟩ := List.exists_mem_of_ne_nil _ some
    exact ⟨name, mem_secondOccurrences_iff.mp inside⟩
  · rintro ⟨name, twice⟩
    exact List.ne_nil_of_mem (mem_secondOccurrences_iff.mpr twice)

theorem nodup_secondOccurrences (names : List String) : (secondOccurrences names).Nodup := by
  induction names using List.reverseRecOn with
  | nil => exact List.nodup_nil
  | append_singleton names last ih =>
    rw [secondOccurrences_snoc]
    split
    · next once =>
      have absent : last ∉ secondOccurrences names := by
        rw [mem_secondOccurrences_iff, once]
        decide
      exact List.nodup_append.mpr ⟨ih, List.nodup_singleton last, by
        rintro name inside _ among rfl
        exact absent (List.mem_singleton.mp among ▸ inside)⟩
    · rwa [List.append_nil]

/-- A name that occurs twice or more has one second occurrence, and any other has none. -/
theorem count_secondOccurrences (names : List String) (name : String) :
    (secondOccurrences names).count name = if 2 ≤ names.count name then 1 else 0 := by
  split
  · next twice =>
    exact List.count_eq_one_of_mem (nodup_secondOccurrences names)
      (mem_secondOccurrences_iff.mpr twice)
  · next rare => exact List.count_eq_zero.mpr (mt mem_secondOccurrences_iff.mp rare)

/-- The scan goes on behind the names that it has seen, of which it found some repeated. -/
theorem secondOccurrences_append {before names seen repeated : List String}
    (known : ∀ name, name ∈ seen ↔ name ∈ before)
    (found : ∀ name, name ∈ repeated ↔ 2 ≤ before.count name) :
    secondOccurrences (before ++ names) =
      secondOccurrences before ++ repeatedNames seen repeated names := by
  induction names generalizing before seen repeated with
  | nil => rw [repeatedNames, List.append_nil, List.append_nil]
  | cons name names ih =>
    have counted (other : String) : (before ++ [name]).count other =
        before.count other + if name = other then 1 else 0 := by
      rw [List.count_append, List.count_singleton]
      simp only [beq_iff_eq]
    rw [List.append_cons, repeatedNames]
    by_cases new : name ∈ before
    · have positive : 0 < before.count name := List.count_pos_iff.mpr new
      have known' : ∀ other, other ∈ seen ↔ other ∈ before ++ [name] := by
        intro other
        rw [known, List.mem_append, List.mem_singleton]
        exact (or_iff_left_of_imp fun same => same ▸ new).symm
      rw [if_neg (by simp [known, new])]
      by_cases again : 2 ≤ before.count name
      · rw [if_pos (by simp [found, again]), ih known' ?_, secondOccurrences_snoc, if_neg (by omega),
          List.append_nil]
        intro other
        rw [found, counted]
        split
        · next same =>
          subst same
          omega
        · rfl
      · rw [if_neg (by simp [found, again]), ih known' ?_, secondOccurrences_snoc, if_pos (by omega),
          List.append_assoc, List.singleton_append]
        intro other
        rw [List.mem_cons, found, counted]
        split
        · next same =>
          subst same
          simp only [true_or, true_iff]
          omega
        · next other => exact or_iff_right (Ne.symm other)
    · have none := List.count_eq_zero.mpr new
      rw [if_pos (by simp [known, new]), ih ?_ ?_, secondOccurrences_snoc, if_neg (by omega),
        List.append_nil]
      · intro other
        rw [List.mem_cons, known, List.mem_append, List.mem_singleton, or_comm]
      · intro other
        rw [found, counted]
        split
        · next same =>
          subst same
          omega
        · rfl

/-- **The scan finds the names where they occur for the second time.** -/
theorem repeatedNames_eq (names : List String) :
    repeatedNames [] [] names = secondOccurrences names := by
  have scanned : secondOccurrences ([] ++ names) = [] ++ repeatedNames [] [] names :=
    secondOccurrences_append (by simp) (by simp)
  exact scanned.symm

example : secondOccurrences ["a", "b", "b", "a", "c", "a"] = ["b", "a"] := by decide

/-! ## The check -/

/-- The check reports the names of members where they occur for the second time. -/
theorem repeatedMembers_eq (c : ClassDecl) :
    repeatedMembers c =
      (secondOccurrences (c.members.map Member.name)).map fun name => ⟨.repeatedMember name, c.name⟩ := by
  rw [repeatedMembers, repeatedNames_eq]

/-- **The check finds nothing** exactly if no two members share a name. -/
theorem repeatedMembers_eq_nil_iff {c : ClassDecl} :
    repeatedMembers c = [] ↔ (c.members.map Member.name).Nodup := by
  rw [repeatedMembers_eq, List.map_eq_nil_iff, List.eq_nil_iff_forall_not_mem,
    List.nodup_iff_count_le_one]
  simp only [mem_secondOccurrences_iff, Nat.not_le, Nat.lt_succ_iff]

/-- The names of the three members differ. -/
structure ObjectToJsonNames.AreDistinct (names : ObjectToJsonNames) : Prop where
  property_ne_field : names.propertyName ≠ names.fieldName
  method_ne_field : names.methodName ≠ names.fieldName
  method_ne_property : names.methodName ≠ names.propertyName

/-- The names used by default do. -/
theorem areDistinct_default : ObjectToJsonNames.AreDistinct {} :=
  ⟨by decide, by decide, by decide⟩

/-- This is what the check asks of the capability. -/
theorem ObjectToJsonNames.areDistinct_iff {names : ObjectToJsonNames} {c : ClassDecl}
    (built : c.members = ObjectToJson.members names) :
    repeatedMembers c = [] ↔ names.AreDistinct := by
  rw [repeatedMembers_eq_nil_iff, built]
  simp only [ObjectToJson.members, List.map_cons, List.map_nil, Member.name, ObjectToJson.field,
    ObjectToJson.property, ObjectToJson.method, List.nodup_cons, List.mem_cons, List.not_mem_nil,
    or_false, not_or, not_false_eq_true, List.nodup_nil, and_true]
  constructor
  · rintro ⟨⟨field, field'⟩, property⟩
    exact ⟨Ne.symm field, Ne.symm field', Ne.symm property⟩
  · rintro ⟨field, field', property⟩
    exact ⟨⟨Ne.symm field, Ne.symm field'⟩, Ne.symm property⟩

end ServiceWriter

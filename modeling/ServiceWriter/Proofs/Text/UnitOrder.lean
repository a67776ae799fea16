import ServiceWriter.Text.Units

/-!
# The order of code units

Texts are told apart by their units (`units_injective`), since a surrogate is no character of its
own. The comparison of texts is the lexicographic order of their units (`unitsLe_iff`), and so
sorting different texts puts them in strictly ascending order (`pairwise_sortByUnits`).
-/

set_option autoImplicit false

namespace ServiceWriter.Text

/-! ## Units of a text -/

/-- A character is no surrogate. -/
theorem toNat_bounds (c : Char) :
    c.toNat < 0xD800 ∨ 0xDFFF < c.toNat ∧ c.toNat < 0x110000 :=
  c.valid

theorem charUnits_ne_nil (c : Char) : charUnits c ≠ [] := by
  by_cases small : c.toNat < 0x10000
  · simp [charUnits, small]
  · simp [charUnits, small]

/-- The first character of a text can be read off its units. -/
theorem charUnits_append_inj {c d : Char} {rest rest' : List Nat}
    (same : charUnits c ++ rest = charUnits d ++ rest') : c = d ∧ rest = rest' := by
  have noSurrogate := toNat_bounds c
  have noSurrogate' := toNat_bounds d
  have codes : c.toNat = d.toNat ∧ rest = rest' := by
    unfold charUnits at same
    by_cases small : c.toNat < 0x10000 <;> by_cases small' : d.toNat < 0x10000 <;>
      simp only [small, small', if_true, if_false, List.cons_append, List.nil_append,
        List.cons.injEq] at same
    · exact same
    · omega
    · omega
    · exact ⟨by omega, same.2.2⟩
  exact ⟨Char.toNat_inj.mp codes.1, codes.2⟩

/-- **Texts with the same units are the same.** -/
theorem units_injective {a b : String} (same : units a = units b) : a = b := by
  refine String.toList_injective ?_
  unfold units at same
  generalize a.toList = as at same
  generalize b.toList = bs at same
  induction as generalizing bs with
  | nil =>
    cases bs with
    | nil => rfl
    | cons d bs =>
      rw [List.flatMap_nil, List.flatMap_cons] at same
      exact absurd (List.append_eq_nil_iff.mp same.symm).1 (charUnits_ne_nil d)
  | cons c as ih =>
    cases bs with
    | nil =>
      rw [List.flatMap_nil, List.flatMap_cons] at same
      exact absurd (List.append_eq_nil_iff.mp same).1 (charUnits_ne_nil c)
    | cons d bs =>
      rw [List.flatMap_cons, List.flatMap_cons] at same
      obtain ⟨rfl, rest⟩ := charUnits_append_inj same
      rw [ih bs rest]

/-! ## The order -/

theorem notAfter_iff (as bs : List Nat) : notAfter as bs = true ↔ ¬ bs < as := by
  induction as generalizing bs with
  | nil => simp [notAfter]
  | cons a as ih =>
    cases bs with
    | nil => simp [notAfter]
    | cons b bs =>
      rw [notAfter, List.cons_lt_cons_iff]
      by_cases same : a = b
      · simp [same, ih]
      · rw [if_neg same, decide_eq_true_iff]
        constructor
        · intro less
          omega
        · intro notLess
          omega

theorem unitsLe_iff (a b : String) : unitsLe a b = true ↔ ¬ units b < units a :=
  notAfter_iff _ _

/-- **Different texts are sorted in strictly ascending order of their units.** -/
theorem pairwise_sortByUnits {texts : List String} (nodup : texts.Nodup) :
    (sortByUnits texts).Pairwise fun a b => units a < units b := by
  have sorted : (sortByUnits texts).Pairwise fun a b => unitsLe a b = true := by
    refine List.pairwise_mergeSort (fun a b c first second => ?_) (fun a b => ?_) texts
    · rw [unitsLe_iff, List.not_lt] at *
      exact List.le_trans first second
    · rw [Bool.or_eq_true, unitsLe_iff, unitsLe_iff, List.not_lt, List.not_lt]
      exact List.le_total _ _
  have distinct : (sortByUnits texts).Pairwise (· ≠ ·) :=
    (List.mergeSort_perm texts unitsLe).nodup_iff.mpr nodup
  refine (sorted.and distinct).imp fun {a b} both => ?_
  have notLess := List.not_lt.mp ((unitsLe_iff a b).mp both.1)
  rcases List.le_iff_lt_or_eq.mp notLess with less | same
  · exact less
  · exact absurd (units_injective same) both.2

theorem mem_sortByUnits {text : String} {texts : List String} :
    text ∈ sortByUnits texts ↔ text ∈ texts :=
  List.mem_mergeSort

end ServiceWriter.Text

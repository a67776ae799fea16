import ServiceWriter.Text.Identifier
import ServiceWriter.Text.PascalCase

/-!
# Letters and digits in Pascal case

Pascal case consists of basic Latin letters and digits only (`isAlphanum_of_mem_pascalCase`), whatever
the text was. A text of letters and digits is an identifier unless it is empty or starts with a digit
(`isIdentifierChars_of_isAlphanum`).
-/

set_option autoImplicit false

namespace ServiceWriter.Text

/-- A lower-case letter moves 32 code points down, to its capital. -/
theorem isUpper_toUpper {c : Char} (lower : c.val ≥ 'a'.val ∧ c.val ≤ 'z'.val) :
    c.toUpper.isUpper = true := by
  have bounds : 97 ≤ c.val.toNat ∧ c.val.toNat ≤ 122 := lower
  have capital : c.toUpper.val.toNat = c.val.toNat - 32 := by
    have moved : c.toUpper.val = c.val + ('A'.val - 'a'.val) := by
      delta Char.toUpper
      rw [dif_pos lower]
    rw [moved, UInt32.toNat_add]
    change (c.val.toNat + 4294967264) % 4294967296 = _
    omega
  have range : 65 ≤ c.toUpper.val.toNat ∧ c.toUpper.val.toNat ≤ 90 := by omega
  exact decide_eq_true range

theorem isAlpha_toUpper {c : Char} (letter : c.isAlpha = true) : c.toUpper.isAlpha = true := by
  by_cases lower : c.val ≥ 'a'.val ∧ c.val ≤ 'z'.val
  · exact Bool.or_eq_true_iff.mpr (.inl (isUpper_toUpper lower))
  · have kept : c.toUpper = c := dif_neg lower
    rwa [kept]

theorem isAlphanum_toUpper {c : Char} (kept : c.isAlphanum = true) :
    c.toUpper.isAlphanum = true := by
  rcases Bool.or_eq_true_iff.mp kept with letter | digit
  · exact Bool.or_eq_true_iff.mpr (.inl (isAlpha_toUpper letter))
  · have notLower : ¬ (c.val ≥ 'a'.val ∧ c.val ≤ 'z'.val) := by
      have bounds : 48 ≤ c.val.toNat ∧ c.val.toNat ≤ 57 := by
        simpa [Char.isDigit, UInt32.le_iff_toNat_le] using digit
      rintro ⟨lower, _⟩
      have bound : 97 ≤ c.val.toNat := lower
      omega
    have same : c.toUpper = c := dif_neg notLower
    rwa [same]

theorem isAlphanum_of_mem_pascalChars {atStart : Bool} {text : List Char} {c : Char}
    (member : c ∈ pascalChars atStart text) : c.isAlphanum = true := by
  induction text generalizing atStart with
  | nil => cases member
  | cons d rest ih =>
    unfold pascalChars at member
    by_cases kept : d.isAlphanum
    · rw [if_pos kept] at member
      rcases List.mem_cons.mp member with rfl | member
      · split
        · exact isAlphanum_toUpper kept
        · exact kept
      · exact ih member
    · rw [if_neg kept] at member
      exact ih member

/-- **Pascal case holds letters and digits only.** -/
theorem isAlphanum_of_mem_pascalCase {text : String} {c : Char}
    (member : c ∈ (pascalCase text).toList) : c.isAlphanum = true := by
  rw [pascalCase, String.toList_ofList] at member
  exact isAlphanum_of_mem_pascalChars member

/-- Letters and digits that do not start with a digit are an identifier. -/
theorem isIdentifierChars_of_isAlphanum {c : Char} {rest : List Char}
    (all : ∀ d ∈ c :: rest, d.isAlphanum = true) (noDigit : c.isDigit = false) :
    isIdentifierChars (c :: rest) = true := by
  have first := all c List.mem_cons_self
  rw [Char.isAlphanum, noDigit, Bool.or_false] at first
  rw [isIdentifierChars, isIdentifierStart, first, Bool.true_or, Bool.true_and, List.all_eq_true]
  intro d member
  rw [isIdentifierPart, all d (List.mem_cons_of_mem c member), Bool.true_or]

end ServiceWriter.Text

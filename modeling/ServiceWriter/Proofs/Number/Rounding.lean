import Mathlib.Algebra.Order.Field.Power
import ServiceWriter.Number.Shortest
import ServiceWriter.Proofs.Number.Numeral

/-!
# Written forms tell binary numbers apart

The written form of a finite binary number is a decimal in the interval of reals that round to it
(`Binary64.rounds_shortest`). The intervals of two positive numbers have no real in common
(`Binary64.eq_of_rounds`): they meet at most in an end, and of two neighbours only the one with the
even mantissa keeps the end.

Hence the written form determines the number, up to the sign of zero
(`Binary64.unsignedZero_eq_of_text_eq`).
-/

set_option autoImplicit false

namespace ServiceWriter

/-! ## Intervals on the real line -/

namespace RoundingInterval

/-- A number lies in the interval. -/
structure Holds (i : RoundingInterval) (v : ℚ) : Prop where
  low_le : (i.low : ℚ) ≤ v * i.den
  le_high : v * i.den ≤ i.high
  low_lt : i.closed = false → (i.low : ℚ) < v * i.den
  lt_high : i.closed = false → v * i.den < i.high

/-- A positive power of ten is the whole part of a grid's scale over its factor. -/
theorem tenTo_toNat (power : Int) :
    (tenTo power.toNat : ℚ) = 10 ^ power * gridFactor power := by
  simp only [gridFactor, tenTo, Nat.pow_eq, Nat.cast_pow, Nat.cast_ofNat]
  rw [← zpow_natCast, ← zpow_natCast, ← zpow_add₀ (by norm_num)]
  congr 1
  omega

theorem gridFactor_pos (power : Int) : (0 : ℚ) < gridFactor power := by
  simp [gridFactor, tenTo]

/-- The test in whole numbers is the one on the real line. -/
theorem holds_of_contains {i : RoundingInterval} {digits : Nat} {power : Int}
    (inside : i.contains digits power = true) : i.Holds (digits * 10 ^ power) := by
  have positive := gridFactor_pos power
  have point :
      (i.scalePoint digits power : ℚ) = digits * 10 ^ power * i.den * gridFactor power := by
    simp only [scalePoint, Nat.cast_mul, tenTo_toNat]
    ring
  have weak : i.low * gridFactor power ≤ i.scalePoint digits power ∧
      i.scalePoint digits power ≤ i.high * gridFactor power := by
    unfold contains at inside
    dsimp only at inside
    split at inside
    · simpa using inside
    · simp only [Bool.and_eq_true, decide_eq_true_eq] at inside
      exact ⟨inside.1.le, inside.2.le⟩
  have strict (isOpen : i.closed = false) : i.low * gridFactor power < i.scalePoint digits power ∧
      i.scalePoint digits power < i.high * gridFactor power := by
    simpa [contains, isOpen] using inside
  refine ⟨?_, ?_, fun isOpen => ?_, fun isOpen => ?_⟩
  · have low : ((i.low * gridFactor power : ℕ) : ℚ) ≤ _ := Nat.cast_le.mpr weak.1
    rw [Nat.cast_mul, point] at low
    exact le_of_mul_le_mul_right low positive
  · have high : _ ≤ ((i.high * gridFactor power : ℕ) : ℚ) := Nat.cast_le.mpr weak.2
    rw [Nat.cast_mul, point] at high
    exact le_of_mul_le_mul_right high positive
  · have low : ((i.low * gridFactor power : ℕ) : ℚ) < _ := Nat.cast_lt.mpr (strict isOpen).1
    rw [Nat.cast_mul, point] at low
    exact lt_of_mul_lt_mul_right low positive.le
  · have high : _ < ((i.high * gridFactor power : ℕ) : ℚ) := Nat.cast_lt.mpr (strict isOpen).2
    rw [Nat.cast_mul, point] at high
    exact lt_of_mul_lt_mul_right high positive.le

theorem contains_of_onGrid {i : RoundingInterval} {power : Int} {digits : Nat}
    (found : i.onGrid power = some digits) : i.contains digits power = true := by
  unfold onGrid at found
  dsimp only at found
  split at found
  · split at found <;> cases found <;> assumption
  · cases found
    assumption
  · cases found
    assumption
  · cases found

/-- What the search finds lies in the interval. -/
theorem holds_of_search {i : RoundingInterval} {fuel count digits : Nat} {power : Int}
    (found : i.search fuel count = some (digits, power)) : i.Holds (digits * 10 ^ power) := by
  induction fuel generalizing count with
  | zero => cases found
  | succ fuel ih =>
    unfold search at found
    dsimp only at found
    split at found
    · next hit =>
      cases found
      exact holds_of_contains (contains_of_onGrid hit)
    · exact ih found

end RoundingInterval

/-! ## Mantissa and scale -/

namespace Binary64

theorem twoTo_fiftyTwo : twoTo 52 = 4503599627370496 := rfl

theorem mantissa_lt (x : Binary64) : x.mantissa < 9007199254740992 := by
  have bound := x.fraction.isLt
  unfold mantissa
  rw [twoTo_fiftyTwo]
  split <;> omega

/-- A number past the smallest scale has a full mantissa. -/
theorem le_mantissa {x : Binary64} (normal : -1074 < x.scale) : 4503599627370496 ≤ x.mantissa := by
  have exponent : x.exponent.val ≠ 0 := by
    unfold scale at normal
    omega
  rw [mantissa, if_neg exponent, twoTo_fiftyTwo]
  omega

theorem le_scale (x : Binary64) : -1074 ≤ x.scale := by
  unfold scale
  omega

/-- Mantissa and scale, with the sign, make up the number. -/
theorem eq_of_mantissa_scale {x y : Binary64} (sign : x.negative = y.negative)
    (mantissas : x.mantissa = y.mantissa) (scales : x.scale = y.scale) : x = y := by
  obtain ⟨negative, exponent, fraction⟩ := x
  obtain ⟨negative', exponent', fraction'⟩ := y
  have bound := fraction.isLt
  have bound' := fraction'.isLt
  simp only [mantissa, scale, twoTo_fiftyTwo] at sign mantissas scales
  have fields : exponent.val = exponent'.val ∧ fraction.val = fraction'.val := by
    split at mantissas <;> split at mantissas <;> omega
  rw [sign, Fin.ext fields.1, Fin.ext fields.2]

/-- How many quarters of a unit the interval reaches below the number. -/
def reach (x : Binary64) : Nat := if x.fraction.val = 0 && x.exponent.val > 1 then 1 else 2

theorem reach_pos (x : Binary64) : 1 ≤ x.reach ∧ x.reach ≤ 2 := by
  unfold reach
  split <;> omega

/-- The interval reaches less far below a power of two. -/
theorem reach_eq_one {x : Binary64} (normal : -1074 < x.scale)
    (power : x.mantissa = 4503599627370496) : x.reach = 1 := by
  have exponent : x.exponent.val > 1 := by
    unfold scale at normal
    omega
  have nonzero : x.exponent.val ≠ 0 := by omega
  rw [mantissa, if_neg nonzero, twoTo_fiftyTwo] at power
  have fraction : x.fraction.val = 0 := by omega
  simp [reach, exponent, fraction]

/-! ## The interval of a number -/

/-- A quarter of the unit that the mantissa counts. -/
def quarter (x : Binary64) : ℚ := 2 ^ (x.scale - 2)

theorem quarter_pos (x : Binary64) : 0 < x.quarter := zpow_pos (by norm_num) _

/-- `v` rounds to the number, signs left aside. -/
structure Rounds (x : Binary64) (v : ℚ) : Prop where
  low_le : ((4 * x.mantissa - x.reach : ℕ) : ℚ) * x.quarter ≤ v
  le_high : v ≤ ((4 * x.mantissa + 2 : ℕ) : ℚ) * x.quarter
  low_lt : x.mantissa % 2 = 1 → ((4 * x.mantissa - x.reach : ℕ) : ℚ) * x.quarter < v
  lt_high : x.mantissa % 2 = 1 → v < ((4 * x.mantissa + 2 : ℕ) : ℚ) * x.quarter

/-- The ends of the interval are counted in quarters of a unit. -/
theorem twoTo_scale (x : Binary64) :
    (twoTo (x.scale - 2).toNat : ℚ) = x.quarter * twoTo (-(x.scale - 2)).toNat := by
  simp only [twoTo, quarter, Nat.pow_eq, Nat.cast_pow, Nat.cast_ofNat]
  rw [← zpow_natCast, ← zpow_natCast, ← zpow_add₀ (by norm_num)]
  congr 1
  omega

theorem rounds_of_holds {x : Binary64} {v : ℚ}
    (inside : (RoundingInterval.ofBinary x).Holds v) : x.Rounds v := by
  have positive : (0 : ℚ) < twoTo (-(x.scale - 2)).toNat := by simp [twoTo]
  have lowEnd : ((RoundingInterval.ofBinary x).low : ℚ) =
      ((4 * x.mantissa - x.reach : ℕ) : ℚ) * x.quarter * twoTo (-(x.scale - 2)).toNat := by
    rw [mul_assoc, ← twoTo_scale, ← Nat.cast_mul]
    rfl
  have highEnd : ((RoundingInterval.ofBinary x).high : ℚ) =
      ((4 * x.mantissa + 2 : ℕ) : ℚ) * x.quarter * twoTo (-(x.scale - 2)).toNat := by
    rw [mul_assoc, ← twoTo_scale, ← Nat.cast_mul]
    rfl
  have isOpen (odd : x.mantissa % 2 = 1) : (RoundingInterval.ofBinary x).closed = false := by
    simp [RoundingInterval.ofBinary, odd]
  refine ⟨?_, ?_, fun odd => ?_, fun odd => ?_⟩
  · exact le_of_mul_le_mul_right (lowEnd ▸ inside.low_le) positive
  · exact le_of_mul_le_mul_right (highEnd ▸ inside.le_high) positive
  · exact lt_of_mul_lt_mul_right (lowEnd ▸ inside.low_lt (isOpen odd)) positive.le
  · exact lt_of_mul_lt_mul_right (highEnd ▸ inside.lt_high (isOpen odd)) positive.le

/-! ## Distinct numbers have disjoint intervals -/

/-- The ends of two intervals that share a number, counted in quarters of the finer unit. -/
theorem ends_of_rounds {x y : Binary64} {v : ℚ} {k : Nat} (scales : y.scale = x.scale + k)
    (inside : x.Rounds v) (inside' : y.Rounds v) :
    (4 * y.mantissa - y.reach) * 2 ^ k ≤ 4 * x.mantissa + 2 ∧
      4 * x.mantissa - x.reach ≤ (4 * y.mantissa + 2) * 2 ^ k ∧
      ((x.mantissa % 2 = 1 ∨ y.mantissa % 2 = 1) →
        (4 * y.mantissa - y.reach) * 2 ^ k < 4 * x.mantissa + 2 ∧
          4 * x.mantissa - x.reach < (4 * y.mantissa + 2) * 2 ^ k) := by
  have positive := quarter_pos x
  have finer (n : Nat) : (n : ℚ) * y.quarter = ((n * 2 ^ k : ℕ) : ℚ) * x.quarter := by
    have shift : y.quarter = 2 ^ k * x.quarter := by
      simp only [quarter, scales]
      rw [← zpow_natCast, ← zpow_add₀ (by norm_num)]
      congr 1
      omega
    rw [shift]
    push_cast
    ring
  have le_of (a b : Nat) (h : (a : ℚ) * x.quarter ≤ b * x.quarter) : a ≤ b :=
    Nat.cast_le.mp (le_of_mul_le_mul_right h positive)
  have lt_of (a b : Nat) (h : (a : ℚ) * x.quarter < b * x.quarter) : a < b :=
    Nat.cast_lt.mp (lt_of_mul_lt_mul_right h positive.le)
  refine ⟨le_of _ _ ?_, le_of _ _ ?_, fun odd => ⟨lt_of _ _ ?_, lt_of _ _ ?_⟩⟩
  · exact (finer _ ▸ inside'.low_le).trans inside.le_high
  · exact inside.low_le.trans (finer _ ▸ inside'.le_high)
  · rcases odd with odd | odd
    · exact lt_of_le_of_lt (finer _ ▸ inside'.low_le) (inside.lt_high odd)
    · exact lt_of_lt_of_le (finer _ ▸ inside'.low_lt odd) inside.le_high
  · rcases odd with odd | odd
    · exact lt_of_lt_of_le (inside.low_lt odd) (finer _ ▸ inside'.le_high)
    · exact lt_of_le_of_lt inside.low_le (finer _ ▸ inside'.lt_high odd)

/-- Two intervals that share a number have one scale: past the finer scale, the lower end lies at or
beyond the last interval of the finer scale, whose mantissa is odd. -/
theorem scale_le_of_rounds {x y : Binary64} {v : ℚ} (inside : x.Rounds v) (inside' : y.Rounds v) :
    y.scale ≤ x.scale := by
  by_contra above
  obtain ⟨k, scales⟩ : ∃ k : Nat, y.scale = x.scale + (k + 1 : ℕ) :=
    ⟨(y.scale - x.scale - 1).toNat, by omega⟩
  have normal : -1074 < y.scale := by
    have bound := le_scale x
    omega
  obtain ⟨low, -, strict⟩ := ends_of_rounds scales inside inside'
  have full := le_mantissa normal
  have bound := mantissa_lt x
  have reached := reach_pos y
  have special := fun power => reach_eq_one (x := y) normal power
  have doubled : (4 * y.mantissa - y.reach) * 2 ≤ (4 * y.mantissa - y.reach) * 2 ^ (k + 1) := by
    apply Nat.mul_le_mul_left
    calc 2 = 2 ^ 1 := rfl
      _ ≤ 2 ^ (k + 1) := Nat.pow_le_pow_right (by decide) (by omega)
  generalize (4 * y.mantissa - y.reach) * 2 ^ (k + 1) = shifted at low strict doubled
  by_cases power : y.mantissa = 4503599627370496
  · have one := special power
    have last : x.mantissa = 9007199254740991 := by omega
    have odd := (strict (.inl (by omega))).1
    omega
  · omega

/-- **A real rounds to one positive number at most.** -/
theorem eq_of_rounds {x y : Binary64} {v : ℚ} (sign : x.negative = y.negative)
    (inside : x.Rounds v) (inside' : y.Rounds v) : x = y := by
  have scales : y.scale = x.scale + (0 : ℕ) := by
    have first := scale_le_of_rounds inside inside'
    have second := scale_le_of_rounds inside' inside
    omega
  obtain ⟨low, high, strict⟩ := ends_of_rounds scales inside inside'
  have reached := reach_pos x
  have reached' := reach_pos y
  simp only [pow_zero, mul_one] at low high strict
  refine eq_of_mantissa_scale sign ?_ (by omega)
  by_contra different
  -- Neighbours: one of the two mantissas is odd, so that their common end belongs to the other one.
  have odd : x.mantissa % 2 = 1 ∨ y.mantissa % 2 = 1 := by omega
  have apart := strict odd
  omega

/-! ## The written form -/

theorem pos_of_rounds {x : Binary64} {v : ℚ} (nonzero : x.mantissa ≠ 0) (inside : x.Rounds v) :
    0 < v := by
  have reached := reach_pos x
  have low : 0 < 4 * x.mantissa - x.reach := by omega
  exact lt_of_lt_of_le (mul_pos (Nat.cast_pos.mpr low) (quarter_pos x)) inside.low_le

/-- A number rounds to itself. -/
theorem rounds_self (x : Binary64) (nonzero : x.mantissa ≠ 0) :
    x.Rounds (x.mantissa * 2 ^ x.scale) := by
  have reached := reach_pos x
  have middle : (x.mantissa : ℚ) * 2 ^ x.scale = ((4 * x.mantissa : ℕ) : ℚ) * x.quarter := by
    have shift : (2 : ℚ) ^ x.scale = 4 * x.quarter := by
      rw [quarter, zpow_sub₀ (by norm_num)]
      norm_num
      ring
    rw [shift]
    push_cast
    ring
  have lower : ((4 * x.mantissa - x.reach : ℕ) : ℚ) * x.quarter < x.mantissa * 2 ^ x.scale := by
    rw [middle]
    exact mul_lt_mul_of_pos_right (Nat.cast_lt.mpr (by omega)) (quarter_pos x)
  have upper : (x.mantissa : ℚ) * 2 ^ x.scale < ((4 * x.mantissa + 2 : ℕ) : ℚ) * x.quarter := by
    rw [middle]
    exact mul_lt_mul_of_pos_right (Nat.cast_lt.mpr (by omega)) (quarter_pos x)
  exact ⟨lower.le, upper.le, fun _ => lower, fun _ => upper⟩

/-- The exact expansion is the number. -/
theorem magnitude_exact (x : Binary64) : x.exact.magnitude = x.mantissa * 2 ^ x.scale := by
  simp only [exact, Decimal.magnitude, twoTo, Nat.pow_eq, Nat.cast_mul, Nat.cast_pow,
    Nat.cast_ofNat]
  rcases le_total 0 x.scale with large | small
  · obtain ⟨n, scale⟩ := Int.eq_ofNat_of_zero_le large
    simp [scale]
  · obtain ⟨n, scale⟩ := Int.eq_ofNat_of_zero_le (Int.neg_nonneg.mpr small)
    have scale' : x.scale = -(n : Int) := by omega
    have ten : (10 : ℚ) ^ n = 5 ^ n * 2 ^ n := by
      rw [← mul_pow]
      norm_num
    simp only [scale', neg_neg, Int.toNat_natCast, Int.toNat_neg_natCast, pow_zero, mul_one,
      min_eq_left (neg_nonpos.mpr (Int.natCast_nonneg n)), zpow_neg, zpow_natCast, ten]
    field_simp

theorem negative_shortest (x : Binary64) : x.shortest.negative = x.negative := by
  unfold shortest
  split
  · rfl
  split <;> rfl

/-- The shortest decimal rounds to the number. -/
theorem rounds_shortest {x : Binary64} (nonzero : x.mantissa ≠ 0) :
    x.Rounds x.shortest.magnitude := by
  rw [shortest, if_neg nonzero]
  split
  · next digits power found =>
    rw [Decimal.magnitude_trimmed]
    exact rounds_of_holds (RoundingInterval.holds_of_search found)
  · rw [Decimal.magnitude_trimmed, magnitude_exact]
    exact rounds_self x nonzero

theorem value_shortest_eq_zero_iff (x : Binary64) :
    x.shortest.value = 0 ↔ x.mantissa = 0 := by
  rw [Decimal.value, mul_eq_zero_iff_left (Numeral.signValue_ne_zero _)]
  constructor
  · intro zero
    by_contra nonzero
    exact absurd zero (pos_of_rounds nonzero (rounds_shortest nonzero)).ne'
  · intro zero
    simp [shortest, zero, Decimal.magnitude]

/-- The number with the sign of zero left out. -/
def unsignedZero (x : Binary64) : Binary64 := if x.mantissa = 0 then zero false else x

theorem isFinite_of_mantissa_eq_zero {x : Binary64} (zero : x.mantissa = 0) :
    x.isFinite = true := by
  unfold mantissa at zero
  split at zero
  · rename_i small
    simp [isFinite, small]
  · have positive : twoTo 52 ≠ 0 := by decide
    omega

/-- Zero is written without a sign. -/
theorem text_of_mantissa_eq_zero {x : Binary64} (zero : x.mantissa = 0) : x.text = "0" := by
  rw [text, if_pos (isFinite_of_mantissa_eq_zero zero), shortest, if_pos zero]
  rfl

theorem isFinite_unsignedZero (x : Binary64) : x.unsignedZero.isFinite = x.isFinite := by
  unfold unsignedZero
  split
  · rename_i zero
    rw [isFinite_of_mantissa_eq_zero zero]
    rfl
  · rfl

/-- The sign of zero is not written. -/
theorem text_unsignedZero (x : Binary64) : x.unsignedZero.text = x.text := by
  unfold unsignedZero
  split
  · rename_i zero
    rw [text_of_mantissa_eq_zero zero]
    exact text_of_mantissa_eq_zero rfl
  · rfl

/-- **The written form of a finite number determines it**, up to the sign of zero. -/
theorem unsignedZero_eq_of_text_eq {x y : Binary64} (finite : x.isFinite = true)
    (finite' : y.isFinite = true) (same : x.text = y.text) :
    x.unsignedZero = y.unsignedZero := by
  rw [text, text, if_pos finite, if_pos finite'] at same
  have values := Decimal.value_eq_of_text_eq same
  have zeros : x.mantissa = 0 ↔ y.mantissa = 0 := by
    rw [← value_shortest_eq_zero_iff, values, value_shortest_eq_zero_iff]
  by_cases zero : x.mantissa = 0
  · rw [unsignedZero, unsignedZero, if_pos zero, if_pos (zeros.mp zero)]
  · have zero' := zero ∘ zeros.mpr
    have inside := rounds_shortest zero
    have inside' := rounds_shortest zero'
    have positive := pos_of_rounds zero inside
    have positive' := pos_of_rounds zero' inside'
    rw [unsignedZero, unsignedZero, if_neg zero, if_neg zero']
    rw [Decimal.value, Decimal.value, negative_shortest, negative_shortest] at values
    have sign : x.negative = y.negative := by
      cases first : x.negative <;> cases second : y.negative <;>
        simp only [first, second, Numeral.signValue, if_true, if_false, Bool.false_eq_true]
          at values ⊢ <;>
        linarith
    rw [sign] at values
    have magnitudes := mul_left_cancel₀ (Numeral.signValue_ne_zero _) values
    exact eq_of_rounds sign inside (magnitudes ▸ inside')

end Binary64

end ServiceWriter

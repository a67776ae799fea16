import Mathlib.Algebra.Order.Field.Rat
import Mathlib.Tactic.FieldSimp
import Mathlib.Tactic.Linarith
import Mathlib.Tactic.NormNum
import Mathlib.Tactic.Ring
import ServiceWriter.Number.Decimal
import ServiceWriter.Proofs.Text.Scan

/-!
# Numerals

The written form of a decimal number, taken apart: a sign, whole digits, the digits after the point
and an exponent. `Decimal.text` writes such a numeral (`Decimal.text_eq`) and the numeral denotes
the number (`Decimal.value_numeral`), so that two decimal numbers with one written form are equal in
value.

A numeral can be read off the front of a text (`Numeral.read`). What is written is read back,
whatever comes after it, as long as that does not go on with the number
(`Numeral.read_chars_append`).
-/

set_option autoImplicit false

namespace ServiceWriter

open Text

/-- The parts of a written number. No point is written before an empty fraction. An exponent has a
sign, true for minus, and digits. -/
structure Numeral where
  negative : Bool
  whole : List Char
  fraction : List Char
  power : Option (Bool × List Char)

namespace Numeral

/-! ## Characters -/

/-- The sign of a number: nothing, or a minus. -/
def signChars (negative : Bool) : List Char := if negative then ['-'] else []

/-- The fraction with the point before it. -/
def fractionChars (fraction : List Char) : List Char :=
  if fraction.isEmpty then [] else '.' :: fraction

/-- The exponent with its letter and its sign. -/
def powerChars : Option (Bool × List Char) → List Char
  | none => []
  | some (negative, digits) => 'e' :: (if negative then '-' else '+') :: digits

/-- The numeral as it is written. -/
def chars (n : Numeral) : List Char :=
  signChars n.negative ++ (n.whole ++ (fractionChars n.fraction ++ powerChars n.power))

/-- There is a whole digit, and all that should be digits are. -/
structure IsWritten (n : Numeral) : Prop where
  whole_ne_nil : n.whole ≠ []
  whole_digits : ∀ c ∈ n.whole, c.isDigit = true
  fraction_digits : ∀ c ∈ n.fraction, c.isDigit = true
  power_digits : ∀ power ∈ n.power, ∀ c ∈ power.2, c.isDigit = true

/-! ## Reading -/

/-- Takes a sign off the front. -/
def readSign : List Char → Bool × List Char
  | '-' :: rest => (true, rest)
  | rest => (false, rest)

/-- Takes a point and the digits after it off the front. A point without digits is left alone. -/
def readFraction : List Char → List Char × List Char
  | '.' :: rest =>
    let digits := rest.takeWhile Char.isDigit
    if digits.isEmpty then ([], '.' :: rest) else (digits, rest.dropWhile Char.isDigit)
  | rest => ([], rest)

/-- Takes an exponent off the front. -/
def readPower : List Char → Option (Bool × List Char) × List Char
  | 'e' :: sign :: rest =>
    (some (sign == '-', rest.takeWhile Char.isDigit), rest.dropWhile Char.isDigit)
  | rest => (none, rest)

/-- Takes a numeral off the front. -/
def read (text : List Char) : Numeral × List Char :=
  let (negative, text) := readSign text
  let whole := text.takeWhile Char.isDigit
  let (fraction, text) := readFraction (text.dropWhile Char.isDigit)
  let (power, text) := readPower text
  (⟨negative, whole, fraction, power⟩, text)

/-- A text that does not go on with a number before it: it starts with no digit, no exponent and no
point with a digit after it. -/
def endsNumber : List Char → Bool
  | '.' :: c :: _ => !c.isDigit
  | c :: _ => !c.isDigit && c != 'e'
  | [] => true

theorem stops_digit_of_endsNumber {rest : List Char} (ends : endsNumber rest = true) :
    Stops Char.isDigit rest := by
  cases rest with
  | nil => exact stops_nil
  | cons c rest =>
    rw [stops_cons]
    by_cases point : c = '.'
    · subst point
      rfl
    · cases rest <;> simp_all [endsNumber]

theorem readFraction_of_endsNumber {rest : List Char} (ends : endsNumber rest = true) :
    readFraction rest = ([], rest) := by
  match rest, ends with
  | [], _ => rfl
  | c :: rest, ends =>
    unfold readFraction
    split
    · next others same =>
      obtain ⟨rfl, rfl⟩ := List.cons.inj same
      have stops : rest.takeWhile Char.isDigit = [] := by
        cases rest with
        | nil => rfl
        | cons d rest =>
          have notDigit : d.isDigit = false := by simpa [endsNumber] using ends
          simp [notDigit]
      simp [stops]
    · rfl

theorem readPower_of_endsNumber {rest : List Char} (ends : endsNumber rest = true) :
    readPower rest = (none, rest) := by
  unfold readPower
  split
  · simp [endsNumber] at ends
  · rfl

/-- A sign is read back before anything that starts with a digit. -/
theorem readSign_append (negative : Bool) {c : Char} (rest : List Char)
    (digit : c.isDigit = true) :
    readSign (signChars negative ++ c :: rest) = (negative, c :: rest) := by
  cases negative with
  | true => rfl
  | false =>
    have notMinus : c ≠ '-' := by
      intro minus
      subst minus
      exact absurd digit (by decide)
    simp only [signChars, readSign, Bool.false_eq_true, if_false, List.nil_append]
    split
    · next same => exact absurd (List.cons.inj same).1 notMinus
    · rfl

theorem readPower_append {power : Option (Bool × List Char)} {rest : List Char}
    (digits : ∀ p ∈ power, ∀ c ∈ p.2, c.isDigit = true) (ends : endsNumber rest = true) :
    readPower (powerChars power ++ rest) = (power, rest) := by
  cases power with
  | none => exact readPower_of_endsNumber ends
  | some power =>
    obtain ⟨negative, written⟩ := power
    have stops := stops_digit_of_endsNumber ends
    have all := digits _ rfl
    cases negative <;>
      simp [powerChars, readPower, takeWhile_append_stops all stops,
        dropWhile_append_stops all stops]

/-- What stands after the fraction does not go on with its digits. -/
theorem stops_digit_power (power : Option (Bool × List Char)) {rest : List Char}
    (ends : endsNumber rest = true) : Stops Char.isDigit (powerChars power ++ rest) := by
  cases power with
  | none => exact stops_digit_of_endsNumber ends
  | some power => exact stops_cons.mpr rfl

theorem readFraction_append {fraction : List Char} {power : Option (Bool × List Char)}
    {rest : List Char} (digits : ∀ c ∈ fraction, c.isDigit = true)
    (ends : endsNumber rest = true) :
    readFraction (fractionChars fraction ++ (powerChars power ++ rest)) =
      (fraction, powerChars power ++ rest) := by
  have stops := stops_digit_power power ends
  cases fraction with
  | nil =>
    cases power with
    | none => exact readFraction_of_endsNumber ends
    | some power => rfl
  | cons c fraction =>
    have taken := takeWhile_append_stops digits stops
    have dropped := dropWhile_append_stops digits stops
    simp only [fractionChars, List.isEmpty_cons, Bool.false_eq_true, if_false, readFraction,
      List.cons_append] at taken dropped ⊢
    simp only [taken, dropped, List.isEmpty_cons, Bool.false_eq_true, if_false]

/-- What stands after the whole digits does not go on with them. -/
theorem stops_digit_fraction (fraction : List Char) (power : Option (Bool × List Char))
    {rest : List Char} (ends : endsNumber rest = true) :
    Stops Char.isDigit (fractionChars fraction ++ (powerChars power ++ rest)) := by
  cases fraction with
  | nil => exact stops_digit_power power ends
  | cons c fraction => exact stops_cons.mpr rfl

/-- **Numerals are read back**, whatever comes after them, unless it goes on with the number. -/
theorem read_chars_append {n : Numeral} (rest : List Char) (written : n.IsWritten)
    (ends : endsNumber rest = true) : read (n.chars ++ rest) = (n, rest) := by
  obtain ⟨negative, whole, fraction, power⟩ := n
  obtain ⟨nonempty, wholeDigits, fractionDigits, powerDigits⟩ := written
  simp only at nonempty wholeDigits fractionDigits powerDigits
  have stops := stops_digit_fraction fraction power ends
  obtain ⟨c, others, rfl⟩ := List.exists_cons_of_ne_nil nonempty
  have sign := readSign_append negative
    (others ++ (fractionChars fraction ++ (powerChars power ++ rest)))
    (wholeDigits c List.mem_cons_self)
  have taken := takeWhile_append_stops wholeDigits stops
  have dropped := dropWhile_append_stops wholeDigits stops
  simp only [List.cons_append] at sign taken dropped
  simp only [chars, read, List.append_assoc, List.cons_append, sign, taken, dropped,
    readFraction_append fractionDigits ends, readPower_append powerDigits ends]

/-! ## Denotation -/

/-- The sign as a factor. -/
def signValue (negative : Bool) : ℚ := if negative then -1 else 1

/-- The power of ten that an exponent stands for. -/
def powerValue : Option (Bool × List Char) → Int
  | none => 0
  | some (negative, digits) =>
    if negative then -(Nat.ofDigitChars 10 digits 0 : Int) else Nat.ofDigitChars 10 digits 0

/-- The number that a numeral denotes. -/
def value (n : Numeral) : ℚ :=
  signValue n.negative *
    (Nat.ofDigitChars 10 (n.whole ++ n.fraction) 0 *
      10 ^ (powerValue n.power - n.fraction.length))

theorem signValue_ne_zero (negative : Bool) : signValue negative ≠ 0 := by
  cases negative <;> norm_num [signValue]

/-! ## Numerals of digits -/

/-- The numeral of a row of digits, the point standing `point` places to the right of the first
one. -/
def ofDigits (negative : Bool) (digits : List Char) (point : Int) : Numeral :=
  let length : Int := digits.length
  if length ≤ point ∧ point ≤ positionalLimit then
    ⟨negative, digits ++ zeros (point - length).toNat, [], none⟩
  else if 0 < point ∧ point ≤ positionalLimit then
    ⟨negative, digits.take point.toNat, digits.drop point.toNat, none⟩
  else if -leadingZeroLimit ≤ point ∧ point ≤ 0 then
    ⟨negative, ['0'], zeros (-point).toNat ++ digits, none⟩
  else
    ⟨negative, digits.take 1, digits.drop 1,
      some (point - 1 < 0, Nat.toDigits 10 (point - 1).natAbs)⟩

variable {negative : Bool} {digits : List Char} {point : Int}

theorem isDigit_of_mem_zeros {count : Nat} {c : Char} (member : c ∈ zeros count) :
    c.isDigit = true := by
  rw [List.eq_of_mem_replicate member]
  rfl

/-- The numeral of digits is what `layoutDigits` lays out. -/
theorem chars_ofDigits (nonempty : digits ≠ []) :
    (ofDigits negative digits point).chars = signChars negative ++ layoutDigits digits point := by
  unfold ofDigits layoutDigits
  simp only [Bool.and_eq_true, decide_eq_true_eq]
  split
  · simp [chars, fractionChars, powerChars]
  next notWhole =>
  split
  · next inside =>
    have rest : digits.drop point.toNat ≠ [] := by
      intro none
      have short := List.drop_eq_nil_iff.mp none
      exact notWhole ⟨by omega, inside.2⟩
    simp [chars, fractionChars, powerChars, rest]
  split
  · simp [chars, fractionChars, powerChars, nonempty]
  · obtain ⟨d, others, rfl⟩ := List.exists_cons_of_ne_nil nonempty
    cases others <;> simp [chars, fractionChars, powerChars]

theorem isWritten_ofDigits (nonempty : digits ≠ [])
    (all : ∀ c ∈ digits, c.isDigit = true) : (ofDigits negative digits point).IsWritten := by
  unfold ofDigits
  have exponent : ∀ c ∈ Nat.toDigits 10 (point - 1).natAbs, c.isDigit = true := by
    intro c member
    exact Nat.isDigit_of_mem_toDigits (by decide) (by decide) member
  dsimp only
  split
  · refine ⟨by simp [nonempty], ?_, by simp, by simp⟩
    intro c member
    rcases List.mem_append.mp member with member | member
    · exact all c member
    · exact isDigit_of_mem_zeros member
  split
  · next inside =>
    refine ⟨?_, fun c member => all c (List.mem_of_mem_take member),
      fun c member => all c (List.mem_of_mem_drop member), by simp⟩
    have positive : point.toNat ≠ 0 := by omega
    simp [nonempty, positive]
  split
  · refine ⟨by simp, by simp, ?_, by simp⟩
    intro c member
    rcases List.mem_append.mp member with member | member
    · exact isDigit_of_mem_zeros member
    · exact all c member
  · refine ⟨by simp [nonempty], fun c member => all c (List.mem_of_mem_take member),
      fun c member => all c (List.mem_of_mem_drop member), ?_⟩
    intro power member
    cases member
    exact exponent

/-- An exponent written for a power of ten stands for it. -/
theorem powerValue_toDigits (power : Int) :
    powerValue (some (power < 0, Nat.toDigits 10 power.natAbs)) = power := by
  simp only [powerValue, Nat.ofDigitChars_ten_toDigits, decide_eq_true_eq]
  split <;> omega

/-- The numeral of digits denotes the number they spell, shifted by the point. -/
theorem value_ofDigits (nonempty : digits ≠ []) :
    (ofDigits negative digits point).value =
      signValue negative *
        (Nat.ofDigitChars 10 digits 0 * 10 ^ (point - digits.length)) := by
  have length : 0 < digits.length := List.length_pos_of_ne_nil nonempty
  unfold ofDigits
  dsimp only
  split
  · next whole =>
    have shift : (10 : ℚ) ^ (point - digits.length) = 10 ^ (point - digits.length).toNat := by
      rw [← zpow_natCast, Int.toNat_of_nonneg (by omega)]
    simp only [value, powerValue, zeros, List.append_nil, List.length_nil, Nat.ofDigitChars_append,
      Nat.ofDigitChars_replicate_zero, shift]
    push_cast
    ring
  split
  · next inside =>
    have shift : (0 : Int) - (digits.drop point.toNat).length = point - digits.length := by
      rw [List.length_drop]
      omega
    simp only [value, powerValue, List.take_append_drop, shift]
  split
  · next small =>
    have shift : (0 : Int) - (zeros (-point).toNat ++ digits).length = point - digits.length := by
      rw [List.length_append, zeros, List.length_replicate]
      omega
    have spelled : Nat.ofDigitChars 10 (['0'] ++ (zeros (-point).toNat ++ digits)) 0 =
        Nat.ofDigitChars 10 digits 0 := by
      simp [Nat.ofDigitChars_append, zeros, Nat.ofDigitChars_cons]
    simp only [value, powerValue, shift, spelled]
  · have shift : point - 1 - (digits.drop 1).length = point - digits.length := by
      rw [List.length_drop]
      omega
    simp only [value, powerValue_toDigits, List.take_append_drop, shift]

end Numeral

/-! ## Numerals of decimal numbers -/

namespace Decimal

/-- The number that a decimal number is, without its sign. -/
def magnitude (d : Decimal) : ℚ := d.digits * 10 ^ d.exponent

/-- The number that a decimal number is. -/
def value (d : Decimal) : ℚ := Numeral.signValue d.negative * d.magnitude

theorem value_eq_zero_iff (d : Decimal) : d.value = 0 ↔ d.digits = 0 := by
  have power : (10 : ℚ) ^ d.exponent ≠ 0 := zpow_ne_zero _ (by norm_num)
  simp [value, magnitude, Numeral.signValue_ne_zero, power]

/-- Moving zeros into the exponent leaves the number as it is. -/
theorem trimZeros_magnitude (fuel digits : Nat) (exponent : Int) :
    ((trimZeros fuel digits exponent).1 : ℚ) * 10 ^ (trimZeros fuel digits exponent).2 =
      digits * 10 ^ exponent := by
  induction fuel generalizing digits exponent with
  | zero => rfl
  | succ fuel ih =>
    unfold trimZeros
    split
    · next trims =>
      have exact : digits = digits / 10 * 10 := by
        simp only [Bool.and_eq_true, beq_iff_eq] at trims
        omega
      rw [ih, zpow_add₀ (by norm_num), zpow_one]
      conv_rhs => rw [exact]
      push_cast
      ring
    · rfl

theorem magnitude_trimmed (d : Decimal) : d.trimmed.magnitude = d.magnitude := by
  simp only [trimmed, magnitude, trimZeros_magnitude]

/-- The numeral that a decimal number is written as. -/
def numeral (d : Decimal) : Numeral :=
  if d.digits = 0 then
    ⟨false, ['0'], [], none⟩
  else
    let digits := Nat.toDigits 10 d.trimmed.digits
    .ofDigits d.negative digits (digits.length + d.trimmed.exponent)

/-- A decimal number is written as its numeral. -/
theorem text_eq (d : Decimal) : d.text = String.ofList d.numeral.chars := by
  unfold text numeral
  split
  · rfl
  · rw [Numeral.chars_ofDigits Nat.toDigits_ne_nil]
    cases d.negative <;> simp [Numeral.signChars]

theorem isWritten_numeral (d : Decimal) : d.numeral.IsWritten := by
  unfold numeral
  split
  · exact ⟨by simp, by simp, by simp, by simp⟩
  · apply Numeral.isWritten_ofDigits Nat.toDigits_ne_nil
    intro c member
    exact Nat.isDigit_of_mem_toDigits (by decide) (by decide) member

/-- **The numeral of a decimal number denotes it.** -/
theorem value_numeral (d : Decimal) : d.numeral.value = d.value := by
  unfold numeral
  split
  · next zero =>
    rw [(value_eq_zero_iff d).mpr zero]
    simp [Numeral.value, Nat.ofDigitChars_cons]
  · rw [Numeral.value_ofDigits Nat.toDigits_ne_nil, value, ← magnitude_trimmed d]
    simp [magnitude]

/-- Decimal numbers with one written form are equal in value. -/
theorem value_eq_of_text_eq {d e : Decimal} (same : d.text = e.text) : d.value = e.value := by
  have chars : d.numeral.chars = e.numeral.chars := by
    rw [text_eq, text_eq] at same
    exact String.ofList_injective same
  have first := Numeral.read_chars_append [] (isWritten_numeral d) rfl
  have second := Numeral.read_chars_append [] (isWritten_numeral e) rfl
  rw [chars, second] at first
  rw [← value_numeral d, ← value_numeral e, (Prod.mk.inj first).1]

end Decimal

end ServiceWriter

import ServiceWriter.Proofs.CSharp.Precedence

/-!
# The meaning of C# expressions

An expression denotes a phrase by its own structure (`meaning`). Its text has parentheses around
operands only, and is therefore read as that phrase exactly if all targets in it are primary
(`phrase_sequenceOf_iff`): no applications of an operator and no negative numbers.

That primary targets are enough is an induction over the expression. For the other direction, phrases
are measured. Joining operands over operators keeps the number of parts of a phrase (`Phrase.size`)
and the parts that stand under accesses (`Phrase.load`). In the text of an access the member takes no
more than the last operand under it, which is fewer parts than the whole target unless that is
primary.
-/

set_option autoImplicit false

namespace ServiceWriter.CSharp

open Text

/-! ## Meanings -/

mutual

/-- What an expression denotes, by its own structure. -/
def meaning (imports : List String) : Expr → Phrase
  | .literal value => (literalSequence value).operand
  | .this => .word "this"
  | .field target name | .property target name => .access (meaning imports target) name
  | .variableRef name | .argumentRef name => .word name
  | .typeName type => typePhrase imports type
  | .create type arguments => .create (typePhrase imports type) (meanings imports arguments)
  | .invoke target method arguments =>
    .call (.access (meaning imports target) method) (meanings imports arguments)
  | .binary left operator right =>
    .binary (meaning imports left) (normalOperator operator) (meaning imports right)
  | .foreign _ => .word ""

/-- What a list of expressions denotes. -/
def meanings (imports : List String) : List Expr → List Phrase
  | [] => []
  | e :: rest => meaning imports e :: meanings imports rest

end

/-- An expression other than an application of an operator and a number below zero. -/
def isPrimary : Expr → Bool
  | .binary .. => false
  | .literal (.number value) => !value.isNegative
  | _ => true

mutual

/-- All targets in the expression are primary. -/
def hasPrimaryTargets : Expr → Bool
  | .field target _ | .property target _ => isPrimary target && hasPrimaryTargets target
  | .invoke target _ arguments =>
    isPrimary target && hasPrimaryTargets target && havePrimaryTargets arguments
  | .create _ arguments => havePrimaryTargets arguments
  | .binary left _ right => hasPrimaryTargets left && hasPrimaryTargets right
  | .literal _ | .this | .variableRef _ | .argumentRef _ | .typeName _ | .foreign _ => true

/-- The same of a list of expressions. -/
def havePrimaryTargets : List Expr → Bool
  | [] => true
  | e :: rest => hasPrimaryTargets e && havePrimaryTargets rest

end

variable {imports : List String}

theorem negative_ofDigits (negative : Bool) (digits : List Char) (point : Int) :
    (Numeral.ofDigits negative digits point).negative = negative := by
  unfold Numeral.ofDigits
  simp only
  split_ifs <;> rfl

/-- A minus is written for the numbers below zero, and not for a zero with a sign. -/
theorem negative_numeral_shortest (x : Binary64) :
    x.shortest.numeral.negative = x.isNegative := by
  have zero : x.shortest.digits = 0 ↔ x.mantissa = 0 :=
    (Decimal.value_eq_zero_iff _).symm.trans x.value_shortest_eq_zero_iff
  rw [Decimal.numeral, Binary64.isNegative]
  split
  · rename_i digits
    simp [zero.mp digits]
  · rename_i digits
    simp [negative_ofDigits, x.negative_shortest, mt zero.mpr digits]

theorem isBinary_of_isPrimary {e : Expr} (primary : isPrimary e = true) : e.isBinary = false := by
  cases e with
  | binary left operator right => cases primary
  | _ => rfl

/-! ## Primary targets are read as they are meant -/

/-- The text of the expression is read as what it denotes, as one operand unless it is an application
of an operator, and with a minus before that exactly if it is not primary. -/
structure IsReadAsMeant (imports : List String) (e : Expr) : Prop where
  phrase : (sequenceOf imports e).phrase = meaning imports e
  alone : e.isBinary = false → (sequenceOf imports e).before = []
  plain : isPrimary e = true → (sequenceOf imports e).isNegated = false

theorem Sequence.phrase_of_alone {s : Sequence} (alone : s.before = []) : s.phrase = s.operand := by
  rw [Sequence.phrase, alone]
  rfl

theorem IsReadAsMeant.of_single {e : Expr}
    (same : sequenceOf imports e = .single (meaning imports e)) : IsReadAsMeant imports e := by
  refine ⟨?_, fun _ => ?_, fun _ => ?_⟩ <;> rw [same] <;> rfl

/-- A primary expression is an operand on its own. -/
theorem IsReadAsMeant.single {e : Expr} (meant : IsReadAsMeant imports e)
    (primary : isPrimary e = true) : sequenceOf imports e = .single (meaning imports e) := by
  have alone := meant.alone (isBinary_of_isPrimary primary)
  have plain := meant.plain primary
  have phrase := meant.phrase
  rw [Sequence.phrase_of_alone alone, Sequence.operand, plain, if_neg Bool.false_ne_true] at phrase
  rw [← phrase]
  generalize sequenceOf imports e = s at alone plain
  obtain ⟨before, isNegated, last⟩ := s
  subst alone plain
  rfl

/-- An operand of an operator is an operand on its own, in parentheses if need be. -/
theorem IsReadAsMeant.operand {e : Expr} (meant : IsReadAsMeant imports e) :
    (operandSequence e (sequenceOf imports e)).before = [] ∧
      (operandSequence e (sequenceOf imports e)).operand = meaning imports e := by
  unfold operandSequence
  split
  · exact ⟨rfl, meant.phrase⟩
  · rename_i plain
    have alone := meant.alone (Bool.not_eq_true _ ▸ plain)
    exact ⟨alone, (Sequence.phrase_of_alone alone).symm.trans meant.phrase⟩

/-- One operator joins the operands before and behind it. -/
theorem phrase_of_operands {s : Sequence} {left right : Phrase} {sign : Operator}
    (before : s.before = [(left, sign)]) (last : s.operand = right) :
    s.phrase = .binary left sign right := by
  rw [Sequence.phrase, before, last]
  cases sign <;> rfl

mutual

theorem isReadAsMeant : ∀ e : Expr, hasPrimaryTargets e = true → IsReadAsMeant imports e
  | .literal value, _ => by
    refine ⟨?_, fun _ => ?_, ?_⟩
    · rw [sequenceOf, meaning]
      cases value <;> rfl
    · rw [sequenceOf]
      cases value <;> rfl
    · intro primary
      rw [sequenceOf]
      cases value with
      | number value =>
        exact (negative_numeral_shortest value).trans ((Bool.not_eq_true' _).mp primary)
      | _ => rfl
  | .this, _ | .variableRef _, _ | .argumentRef _, _ | .typeName _, _ | .foreign _, _ => by
    refine .of_single ?_
    rw [sequenceOf, meaning]
  | .field target name, holds | .property target name, holds => by
    rw [hasPrimaryTargets, Bool.and_eq_true] at holds
    have inner := (isReadAsMeant target holds.2).single holds.1
    refine .of_single ?_
    rw [sequenceOf, inner, meaning]
    rfl
  | .create type arguments, holds => by
    rw [hasPrimaryTargets] at holds
    refine .of_single ?_
    rw [sequenceOf, meaning, phrasesOf_eq_meanings arguments holds]
  | .invoke target method arguments, holds => by
    rw [hasPrimaryTargets, Bool.and_eq_true, Bool.and_eq_true] at holds
    have inner := (isReadAsMeant target holds.1.2).single holds.1.1
    refine .of_single ?_
    rw [sequenceOf, inner, meaning, phrasesOf_eq_meanings arguments holds.2]
    rfl
  | .binary left operator right, holds => by
    rw [hasPrimaryTargets, Bool.and_eq_true] at holds
    obtain ⟨alone, same⟩ := (isReadAsMeant left holds.1).operand
    obtain ⟨alone', same'⟩ := (isReadAsMeant right holds.2).operand
    refine ⟨?_, nofun, nofun⟩
    rw [sequenceOf, meaning]
    refine phrase_of_operands ?_ same'
    rw [Sequence.behind, alone, alone', same]
    rfl

theorem phrasesOf_eq_meanings : ∀ es : List Expr, havePrimaryTargets es = true →
    phrasesOf imports es = meanings imports es
  | [], _ => rfl
  | e :: es, holds => by
    rw [havePrimaryTargets, Bool.and_eq_true] at holds
    rw [phrasesOf, meanings, (isReadAsMeant e holds.1).phrase, phrasesOf_eq_meanings es holds.2]

end

/-! ## Measures -/

mutual

/-- The number of parts of a phrase. -/
def Phrase.size : Phrase → Nat
  | .word _ | .number _ | .quoted _ => 1
  | .access target _ => target.size + 1
  | .generic type arguments | .call type arguments | .create type arguments =>
    type.size + phraseSizes arguments + 1
  | .negated operand => operand.size + 1
  | .binary left _ right => left.size + right.size + 1

/-- The number of parts of a list of phrases. -/
def phraseSizes : List Phrase → Nat
  | [] => 0
  | phrase :: rest => phrase.size + phraseSizes rest

end

mutual

/-- The number of parts of all targets of accesses in a phrase. -/
def Phrase.load : Phrase → Nat
  | .word _ | .number _ | .quoted _ => 0
  | .access target _ => target.load + target.size
  | .generic type arguments | .call type arguments | .create type arguments =>
    type.load + phraseLoads arguments
  | .negated operand => operand.load
  | .binary left _ right => left.load + right.load

/-- The same of a list of phrases. -/
def phraseLoads : List Phrase → Nat
  | [] => 0
  | phrase :: rest => phrase.load + phraseLoads rest

end

namespace Sequence

/-- An operator adds the constant to the measures of its operands. -/
def IsAdditive (measure : Phrase → Nat) (constant : Nat) : Prop :=
  ∀ left sign right, measure (.binary left sign right) = measure left + measure right + constant

/-- The measure of operands before another. -/
def sumBefore (measure : Phrase → Nat) (constant : Nat) : List (Phrase × Operator) → Nat
  | [] => 0
  | (left, _) :: before => measure left + constant + sumBefore measure constant before

/-- The measure of all operands and operators. -/
def sum (measure : Phrase → Nat) (constant : Nat) (s : Sequence) : Nat :=
  sumBefore measure constant s.before + measure s.operand

section

variable {measure : Phrase → Nat} {constant : Nat}

theorem sumBefore_append (before before' : List (Phrase × Operator)) :
    sumBefore measure constant (before ++ before') =
      sumBefore measure constant before + sumBefore measure constant before' := by
  induction before with
  | nil => exact (Nat.zero_add _).symm
  | cons pair before ih =>
    obtain ⟨left, sign⟩ := pair
    rw [List.cons_append, sumBefore, sumBefore, ih]
    omega

theorem sum_joinLevel (additive : IsAdditive measure constant) (level : Operator → Bool)
    (before : List (Phrase × Operator)) (last : Phrase) :
    sumBefore measure constant (joinLevel level before last).1 +
        measure (joinLevel level before last).2 =
      sumBefore measure constant before + measure last := by
  induction before generalizing last with
  | nil => rfl
  | cons pair before ih =>
    obtain ⟨left, sign⟩ := pair
    have earlier := ih left
    rw [joinLevel, sumBefore]
    split
    · simp only [additive _ sign last]
      omega
    · simp only [sumBefore]
      omega

theorem joinLevel_all (before : List (Phrase × Operator)) (last : Phrase) :
    (joinLevel (fun _ => true) before last).1 = [] := by
  induction before generalizing last with
  | nil => rfl
  | cons pair before ih => exact ih pair.1

/-- **Joining operands keeps the measure**, however they are joined. -/
theorem measure_phrase (additive : IsAdditive measure constant) (s : Sequence) :
    measure s.phrase = s.sum measure constant := by
  have last (before : List (Phrase × Operator)) (last : Phrase) :
      measure (joinLevel (fun _ => true) before last).2 =
        sumBefore measure constant before + measure last := by
    have whole := sum_joinLevel additive (fun _ => true) before last
    rw [joinLevel_all, sumBefore, Nat.zero_add] at whole
    exact whole
  rw [phrase, last, sum_joinLevel additive, sum_joinLevel additive, sum]

/-- An operator adds up what is before and what is behind it. -/
theorem sum_behind (s s' : Sequence) (sign : Operator) :
    (s'.behind ((s.operand, sign) :: s.before)).sum measure constant =
      s.sum measure constant + s'.sum measure constant + constant := by
  have same : (s'.behind ((s.operand, sign) :: s.before)).operand = s'.operand := rfl
  rw [sum, same, behind, sumBefore_append, sumBefore, sum, sum]
  omega

end

theorem isAdditive_size : IsAdditive Phrase.size 1 := fun _ _ _ => by rw [Phrase.size]

theorem isAdditive_load : IsAdditive Phrase.load 0 := fun _ _ _ => by rw [Phrase.load]; rfl

/-- The parts of a sequence. -/
def size (s : Sequence) : Nat := s.sum Phrase.size 1

/-- The parts of all targets in a sequence. -/
def load (s : Sequence) : Nat := s.sum Phrase.load 0

theorem load_operand (s : Sequence) : s.operand.load = s.last.load := by
  unfold operand
  split
  · rw [Phrase.load]
  · rfl

theorem size_last_le (s : Sequence) : s.last.size ≤ s.operand.size := by
  unfold operand
  split
  · rw [Phrase.size]
    exact Nat.le_succ _
  · exact le_rfl

/-- The last operand has no more parts than the sequence, and all of them only if it stands alone. -/
theorem eq_single_of_size_le {s : Sequence} (all : s.size ≤ s.last.size) : s = .single s.last := by
  have operand := s.size_last_le
  rw [size, sum] at all
  obtain ⟨before, isNegated, last⟩ := s
  cases before with
  | cons pair before =>
    obtain ⟨left, sign⟩ := pair
    simp only [sumBefore] at all operand
    omega
  | nil =>
    cases isNegated with
    | false => rfl
    | true =>
      simp only [sumBefore, Sequence.operand, if_true, Phrase.size] at all
      omega

theorem size_follow_access (s : Sequence) (name : String) :
    (s.follow (.access · name)).size = s.size + 1 := by
  obtain ⟨before, isNegated, last⟩ := s
  cases isNegated <;> simp only [size, sum, follow, Sequence.operand, if_true, if_false,
    Bool.false_eq_true, Phrase.size] <;> omega

theorem size_follow_call (s : Sequence) (phrases : List Phrase) :
    (s.follow (.call · phrases)).size = s.size + phraseSizes phrases + 1 := by
  obtain ⟨before, isNegated, last⟩ := s
  cases isNegated <;> simp only [size, sum, follow, Sequence.operand, if_true, if_false,
    Bool.false_eq_true, Phrase.size] <;> omega

/-- An access puts the last operand under it, whatever stands before that. -/
theorem load_follow_access (s : Sequence) (name : String) :
    (s.follow (.access · name)).load = s.load + s.last.size := by
  simp only [load, sum, load_operand, follow, Phrase.load]
  omega

theorem load_follow_call (s : Sequence) (phrases : List Phrase) :
    (s.follow (.call · phrases)).load = s.load + phraseLoads phrases := by
  simp only [load, sum, load_operand, follow, Phrase.load]
  omega

end Sequence

open Sequence

/-! ## What the text of a target is read as -/

/-- Parentheses keep the measure. -/
theorem sum_operandSequence {measure : Phrase → Nat} {constant : Nat}
    (additive : IsAdditive measure constant) (e : Expr) (s : Sequence) :
    (operandSequence e s).sum measure constant = s.sum measure constant := by
  unfold operandSequence
  split
  · rw [← measure_phrase additive s, Sequence.single, sum, sumBefore, Nat.zero_add]
    rfl
  · rfl

theorem sum_of_alone {measure : Phrase → Nat} {constant : Nat} {s : Sequence}
    (alone : s.before = []) : s.sum measure constant = measure s.operand := by
  rw [sum, alone, sumBefore, Nat.zero_add]

theorem before_literalSequence (value : Literal) : (literalSequence value).before = [] := by
  cases value <;> rfl

mutual

/-- No part of an expression is lost in its text. -/
theorem size_sequenceOf : ∀ e : Expr, (sequenceOf imports e).size = (meaning imports e).size
  | .literal value => by
    rw [sequenceOf, meaning]
    exact sum_of_alone (before_literalSequence value)
  | .this | .variableRef _ | .argumentRef _ | .typeName _ | .foreign _ => by
    rw [sequenceOf, meaning]
    exact sum_of_alone rfl
  | .field target name | .property target name => by
    rw [sequenceOf, meaning, size_follow_access, size_sequenceOf target, Phrase.size]
  | .create type arguments => by
    have same := sizes_phrasesOf arguments
    rw [sequenceOf, meaning, Phrase.size, ← same]
    refine (sum_of_alone rfl).trans ?_
    rw [Sequence.operand, Sequence.single, if_neg Bool.false_ne_true, Phrase.size]
  | .invoke target method arguments => by
    have same := sizes_phrasesOf arguments
    have inner := size_sequenceOf target
    rw [sequenceOf, size_follow_call, size_follow_access, meaning, Phrase.size, Phrase.size, same, inner]
  | .binary left operator right => by
    have first := size_sequenceOf left
    have second := size_sequenceOf right
    rw [size] at first second
    rw [sequenceOf, meaning, Phrase.size, size, sum_behind, sum_operandSequence isAdditive_size,
      sum_operandSequence isAdditive_size, first, second]

theorem sizes_phrasesOf : ∀ es : List Expr,
    phraseSizes (phrasesOf imports es) = phraseSizes (meanings imports es)
  | [] => rfl
  | e :: es => by
    have first := size_sequenceOf e
    rw [size] at first
    rw [phrasesOf, meanings, phraseSizes, phraseSizes, measure_phrase isAdditive_size, first,
      sizes_phrasesOf es]

end

theorem isPrimary_of_single {e : Expr} {phrase : Phrase}
    (single : sequenceOf imports e = .single phrase) : isPrimary e = true := by
  cases e with
  | literal value =>
    cases value with
    | number value =>
      rw [sequenceOf] at single
      have plain : value.shortest.numeral.negative = false := congrArg Sequence.isNegated single
      exact (Bool.not_eq_true' _).mpr ((negative_numeral_shortest value).symm.trans plain)
    | _ => rfl
  | binary left operator right =>
    have before := congrArg Sequence.before single
    rw [sequenceOf, Sequence.behind, Sequence.single] at before
    simp at before
  | _ => rfl

/-- The member behind a target takes no more parts under it than the target has, and all of them only
if the target is primary. -/
theorem size_last_sequenceOf (imports : List String) (target : Expr) :
    (sequenceOf imports target).last.size ≤ (meaning imports target).size ∧
      ((sequenceOf imports target).last.size = (meaning imports target).size →
        isPrimary target = true) := by
  have operand := (sequenceOf imports target).size_last_le
  have all : (sequenceOf imports target).operand.size ≤ (sequenceOf imports target).size := by
    rw [size, sum]
    omega
  rw [← size_sequenceOf target]
  exact ⟨by omega, fun same => isPrimary_of_single (eq_single_of_size_le same.ge)⟩

mutual

/-- What a text is read as has no more parts under its accesses than what is meant, and as many only
if all targets are primary. -/
theorem load_sequenceOf : ∀ e : Expr,
    (sequenceOf imports e).load ≤ (meaning imports e).load ∧
      ((sequenceOf imports e).load = (meaning imports e).load → hasPrimaryTargets e = true)
  | .literal value => by
    rw [sequenceOf, meaning]
    exact ⟨(sum_of_alone (before_literalSequence value)).le, fun _ => rfl⟩
  | .this | .variableRef _ | .argumentRef _ | .typeName _ | .foreign _ => by
    rw [sequenceOf, meaning]
    exact ⟨(sum_of_alone rfl).le, fun _ => rfl⟩
  | .field target name | .property target name => by
    obtain ⟨less, equal⟩ := load_sequenceOf target
    obtain ⟨less', equal'⟩ := size_last_sequenceOf imports target
    rw [sequenceOf, meaning, load_follow_access, Phrase.load, hasPrimaryTargets, Bool.and_eq_true]
    exact ⟨by omega, fun same => ⟨equal' (by omega), equal (by omega)⟩⟩
  | .create type arguments => by
    obtain ⟨less, equal⟩ := loads_phrasesOf arguments
    have whole : (sequenceOf imports (.create type arguments)).load =
        (typePhrase imports type).load + phraseLoads (phrasesOf imports arguments) := by
      rw [sequenceOf]
      refine (sum_of_alone rfl).trans ?_
      rw [Sequence.operand, Sequence.single, if_neg Bool.false_ne_true, Phrase.load]
    rw [whole, meaning, Phrase.load, hasPrimaryTargets]
    exact ⟨by omega, fun same => equal (by omega)⟩
  | .invoke target method arguments => by
    obtain ⟨less, equal⟩ := load_sequenceOf target
    obtain ⟨less', equal'⟩ := size_last_sequenceOf imports target
    obtain ⟨less'', equal''⟩ := loads_phrasesOf arguments
    rw [sequenceOf, load_follow_call, load_follow_access, meaning, Phrase.load, Phrase.load,
      hasPrimaryTargets, Bool.and_eq_true, Bool.and_eq_true]
    exact ⟨by omega, fun same => ⟨⟨equal' (by omega), equal (by omega)⟩, equal'' (by omega)⟩⟩
  | .binary left operator right => by
    obtain ⟨less, equal⟩ := load_sequenceOf left
    obtain ⟨less', equal'⟩ := load_sequenceOf right
    have whole : (sequenceOf imports (.binary left operator right)).load =
        (sequenceOf imports left).load + (sequenceOf imports right).load := by
      rw [sequenceOf, load, sum_behind, sum_operandSequence isAdditive_load,
        sum_operandSequence isAdditive_load]
      rfl
    rw [whole, meaning, Phrase.load, hasPrimaryTargets, Bool.and_eq_true]
    exact ⟨by omega, fun same => ⟨equal (by omega), equal' (by omega)⟩⟩

theorem loads_phrasesOf : ∀ es : List Expr,
    phraseLoads (phrasesOf imports es) ≤ phraseLoads (meanings imports es) ∧
      (phraseLoads (phrasesOf imports es) = phraseLoads (meanings imports es) →
        havePrimaryTargets es = true)
  | [] => ⟨le_rfl, fun _ => rfl⟩
  | e :: es => by
    obtain ⟨less, equal⟩ := load_sequenceOf e
    obtain ⟨less', equal'⟩ := loads_phrasesOf es
    have first : (sequenceOf imports e).phrase.load = (sequenceOf imports e).load :=
      measure_phrase isAdditive_load _
    rw [phrasesOf, meanings, phraseLoads, phraseLoads, first, havePrimaryTargets, Bool.and_eq_true]
    exact ⟨by omega, fun same => ⟨equal (by omega), equal' (by omega)⟩⟩

end

/-- **The text of an expression is read as what the expression denotes** exactly if all targets in it
are primary. -/
theorem phrase_sequenceOf_iff {e : Expr} :
    (sequenceOf imports e).phrase = meaning imports e ↔ hasPrimaryTargets e = true := by
  refine ⟨fun same => ?_, fun holds => (isReadAsMeant e holds).phrase⟩
  have load := congrArg Phrase.load same
  rw [measure_phrase isAdditive_load] at load
  exact (load_sequenceOf e).2 load

/-- It is one operand then, exactly if the expression is itself primary. -/
theorem sequenceOf_eq_single_iff {e : Expr} :
    sequenceOf imports e = .single (meaning imports e) ↔
      isPrimary e = true ∧ hasPrimaryTargets e = true := by
  constructor
  · intro same
    have phrase : (sequenceOf imports e).phrase = meaning imports e := by
      rw [same]
      rfl
    exact ⟨isPrimary_of_single same, phrase_sequenceOf_iff.mp phrase⟩
  · rintro ⟨primary, holds⟩
    exact (isReadAsMeant e holds).single primary

end ServiceWriter.CSharp

import ServiceWriter.Proofs.CSharp.ReadingTypes

/-!
# C# expressions read back

What the emitter of C# writes for an expression is read back as its normal form
(`reads_expressionText`), whatever comes after it that can come after an expression.

The text of a member access begins with that of its target. It is therefore not said what the reader
makes of an operand, but that it goes on with the suffixes behind it (`ReadsOperand`): a target is
read in this sense if all accesses to it are.
-/

set_option autoImplicit false

namespace ServiceWriter.CSharp

open Text

variable {imports : List String}

/-! ## What comes behind -/

/-- What can come after an expression. -/
def EndsExpression (rest : List Char) : Prop := ∀ c ∈ rest.head?, c = ',' ∨ c = ')'

/-- What can come after an operand. -/
def EndsOperand (rest : List Char) : Prop := ∀ c ∈ rest.head?, c = ' ' ∨ c = ',' ∨ c = ')'

/-- What can come after a target or an operand. -/
def EndsTerm (rest : List Char) : Prop :=
  EndsOperand rest ∨ ∃ c others, rest = '.' :: c :: others ∧ isIdentifierStart c = true

/-- What can come after a word that is not called. -/
def EndsWord (rest : List Char) : Prop :=
  Stops isIdentifierPart rest ∧ ∀ c ∈ rest.head?, c ≠ '('

theorem EndsExpression.endsOperand {rest : List Char} (ends : EndsExpression rest) :
    EndsOperand rest :=
  fun c member => .inr (ends c member)

theorem endsWord_cons {c : Char} {rest : List Char} (stops : isIdentifierPart c = false)
    (plain : c ≠ '(') : EndsWord (c :: rest) := by
  refine ⟨stops_cons.mpr stops, fun d member => ?_⟩
  cases member
  exact plain

theorem EndsTerm.endsWord {rest : List Char} (ends : EndsTerm rest) : EndsWord rest := by
  rcases ends with ends | ⟨c, others, rfl, _⟩
  · cases rest with
    | nil => exact ⟨stops_nil, fun c member => nomatch member⟩
    | cons c rest => rcases ends c rfl with rfl | rfl | rfl <;> exact endsWord_cons rfl (by decide)
  · exact endsWord_cons rfl (by decide)

theorem not_isDigit_of_isIdentifierStart {c : Char} (start : isIdentifierStart c = true) :
    c.isDigit = false := by
  simp only [isIdentifierStart, Bool.or_eq_true, beq_iff_eq] at start
  rcases start with alpha | rfl
  · change (decide (c.val ≥ 65 ∧ c.val ≤ 90)
      || decide (c.val ≥ 97) && decide (c.val ≤ 122)) = true at alpha
    change (decide (c.val ≥ 48) && decide (c.val ≤ 57)) = false
    simp only [Bool.or_eq_true, Bool.and_eq_true, decide_eq_true_eq, ge_iff_le,
      UInt32.le_iff_toNat_le, Bool.and_eq_false_iff, decide_eq_false_iff_not] at alpha ⊢
    simp at alpha ⊢
    omega
  · rfl

theorem EndsTerm.endsNumber {rest : List Char} (ends : EndsTerm rest) :
    Numeral.endsNumber rest = true := by
  rcases ends with ends | ⟨c, others, rfl, start⟩
  · cases rest with
    | nil => rfl
    | cons c rest => rcases ends c rfl with rfl | rfl | rfl <;> rfl
  · simp [Numeral.endsNumber, not_isDigit_of_isIdentifierStart start]

/-- An access to a member can come after its target. -/
theorem endsTerm_access {name : String} (valid : isIdentifier name = true) (rest : List Char) :
    EndsTerm ('.' :: (name.toList ++ rest)) := by
  obtain ⟨c, others, chars, start⟩ := exists_head valid
  rw [chars]
  exact .inr ⟨c, others ++ rest, rfl, start⟩

/-! ## Reading back -/

variable (number : Numeral → Binary64)

/-- The text is read as the expression before all that can come after an expression. -/
def ReadsExpression (text : List Char) (e : Expr) : Prop :=
  ∀ rest, EndsExpression rest → Settles (readExpression number · (text ++ rest)) (e, rest)

/-- The reader goes on behind the text with the suffixes to the expression. -/
def ReadsOperand (text : List Char) (e : Expr) : Prop :=
  ∀ rest result, EndsTerm rest → Settles (readSuffixes number · e rest) result →
    Settles (readOperand number · (text ++ rest)) result

/-- The text is read as an atom before all that can come after an operand. -/
def ReadsAtom (text : List Char) (e : Expr) : Prop :=
  ∀ rest, EndsTerm rest → Settles (readAtom number · (text ++ rest)) (e, rest)

variable {number} {text : List Char} {e : Expr}

theorem settles_operand {rest : List Char} {input : List Char} {result : Expr × List Char}
    (atom : Settles (readAtom number · input) (e, rest))
    (suffixes : Settles (readSuffixes number · e rest) result) :
    Settles (readOperand number · input) result :=
  Settles.step (fun fuel => by rw [readOperand]) (atom.bind suffixes)

theorem ReadsAtom.operand (reads : ReadsAtom number text e) : ReadsOperand number text e :=
  fun rest _ ends suffixes => settles_operand (reads rest ends) suffixes

theorem settles_noSuffixes {rest : List Char} (ends : EndsOperand rest) :
    Settles (readSuffixes number · e rest) (e, rest) := by
  refine Settles.step (fun fuel => ?_) (Settles.const _)
  cases rest with
  | nil => rfl
  | cons c rest => rcases ends c rfl with rfl | rfl | rfl <;> rfl

theorem ReadsOperand.expression (reads : ReadsOperand number text e) :
    ReadsExpression number text e := by
  intro rest ends
  refine Settles.step (fun fuel => by rw [readExpression]) ?_
  refine Settles.bind (reads rest (e, rest) (.inl ends.endsOperand)
    (settles_noSuffixes ends.endsOperand)) ?_
  cases rest with
  | nil => exact Settles.const _
  | cons c rest => rcases ends c rfl with rfl | rfl <;> exact Settles.const _

/-- In parentheses, an expression is an operand. -/
theorem ReadsExpression.parenthesised (reads : ReadsExpression number text e) :
    ReadsOperand number ('(' :: (text ++ [')'])) e := by
  refine ReadsAtom.operand fun rest _ => ?_
  have inside := reads (')' :: rest) fun c member => by
    cases member
    exact .inr rfl
  refine Settles.step (fun fuel => by
    rw [List.cons_append, readAtom, if_pos rfl, List.append_assoc]) ?_
  exact inside.bind (Settles.const _)

/-! ## Atoms -/

/-- The reader takes a word off the front of an atom. -/
theorem readAtom_word {word : String} {rest : List Char} (fuel : Nat)
    (valid : isIdentifier word = true) (stops : Stops isIdentifierPart rest) :
    readAtom number (fuel + 1) (word.toList ++ rest) = readWord number fuel word rest := by
  have parts := isIdentifierPart_of_mem valid
  have taken := takeWhile_append_stops parts stops
  have dropped := dropWhile_append_stops parts stops
  obtain ⟨c, others, chars, start⟩ := exists_head valid
  have notParenthesis : c ≠ '(' := by
    rintro rfl
    cases start
  have notQuote : c ≠ '"' := by
    rintro rfl
    cases start
  have notNumber : ¬ (c = '-' || c.isDigit) = true := by
    rw [not_isDigit_of_isIdentifierStart start, Bool.or_false, decide_eq_true_eq]
    rintro rfl
    cases start
  have whole : String.ofList (c :: others) = word := by
    rw [← chars, String.ofList_toList]
  rw [chars, List.cons_append] at taken dropped
  rw [chars, List.cons_append, readAtom, if_neg notParenthesis, if_neg notQuote, if_neg notNumber,
    if_pos start, taken, dropped, whole]

theorem settles_word {word : String} {rest : List Char} (valid : isIdentifier word = true)
    (notNew : word ≠ "new") (stops : Stops isIdentifierPart rest) :
    Settles (readAtom number · (word.toList ++ rest)) (wordExpr word, rest) := by
  refine Settles.step (fun fuel => readAtom_word fuel valid stops) ?_
  exact Settles.step (fun fuel => by rw [readWord, if_neg notNew]) (Settles.const _)

/-- Words are read back for what they stand for. -/
theorem reads_word (word : String) (valid : isIdentifier word = true) (notNew : word ≠ "new") :
    ReadsAtom number word.toList (wordExpr word) :=
  fun _ ends => settles_word valid notNew ends.endsWord.1

theorem IsName.ne_new {name : String} (isName : IsName name) : name ≠ "new" := by
  rintro rfl
  exact isName.2 (by decide)

theorem reads_name {name : String} (isName : IsName name) :
    ReadsAtom number name.toList (.variableRef name) := by
  rw [← isName.wordExpr]
  exact reads_word name isName.1 isName.ne_new

theorem reads_quote (value : String) :
    ReadsAtom number (quote value).toList (.literal (.text value)) := by
  intro rest _
  have chars : (quote value).toList ++ rest =
      '"' :: (value.toList.flatMap escapeChar ++ '"' :: rest) := by
    simp [quote, quoteChars]
  rw [chars]
  refine Settles.step (fun fuel => ?_) (Settles.const _)
  rw [readAtom, if_neg (by decide), if_pos rfl, readInside_append]
  simp only [Option.bind_some, String.ofList_toList]

theorem exists_head_chars {n : Numeral} (written : n.IsWritten) :
    ∃ c others, n.chars = c :: others ∧ (c = '-' || c.isDigit) = true := by
  obtain ⟨negative, whole, fraction, power⟩ := n
  obtain ⟨c, others, rfl⟩ := List.exists_cons_of_ne_nil written.whole_ne_nil
  cases negative with
  | true => exact ⟨'-', _, rfl, rfl⟩
  | false =>
    have digit := written.whole_digits c List.mem_cons_self
    exact ⟨c, _, rfl, by rw [digit, Bool.or_true]⟩

theorem reads_numeral {n : Numeral} (written : n.IsWritten) :
    ReadsAtom number n.chars (.literal (.number (number n))) := by
  intro rest ends
  have back := Numeral.read_chars_append rest written ends.endsNumber
  obtain ⟨c, others, chars, begins⟩ := exists_head_chars written
  have notParenthesis : c ≠ '(' := by
    rintro rfl
    cases begins
  have notQuote : c ≠ '"' := by
    rintro rfl
    cases begins
  refine Settles.step (fun fuel => ?_) (Settles.const _)
  rw [chars, List.cons_append] at back ⊢
  rw [readAtom, if_neg notParenthesis, if_neg notQuote, if_pos begins, back]

/-! ## Suffixes -/

theorem readSuffixes_access {name : String} {rest : List Char} (fuel : Nat) (target : Expr)
    (valid : isIdentifier name = true) (ends : EndsWord rest) :
    readSuffixes number (fuel + 1) target ('.' :: (name.toList ++ rest)) =
      readSuffixes number fuel (.field target name) rest := by
  have parts := isIdentifierPart_of_mem valid
  rw [readSuffixes]
  simp only [takeWhile_append_stops parts ends.1, dropWhile_append_stops parts ends.1,
    String.ofList_toList]
  split
  · exact absurd rfl (ends.2 '(' rfl)
  · rfl

theorem readSuffixes_call {name : String} (fuel : Nat) (target : Expr) (rest : List Char)
    (valid : isIdentifier name = true) :
    readSuffixes number (fuel + 1) target ('.' :: (name.toList ++ '(' :: rest)) =
      (readArguments number fuel rest).bind fun (arguments, rest) =>
        readSuffixes number fuel (.invoke target name arguments) rest := by
  have parts := isIdentifierPart_of_mem valid
  have stops : Stops isIdentifierPart ('(' :: rest) := stops_cons.mpr rfl
  rw [readSuffixes]
  simp only [takeWhile_append_stops parts stops, dropWhile_append_stops parts stops,
    String.ofList_toList]

theorem endsWord_behind {names : List String} {rest : List Char} (ends : EndsWord rest) :
    EndsWord (behind '.' (names.map String.toList) ++ rest) := by
  cases names with
  | nil => exact ends
  | cons name names => exact endsWord_cons rfl (by decide)

/-- Names behind dots are read as accesses, one after another. -/
theorem settles_behind {rest : List Char} {result : Expr × List Char} (ends : EndsWord rest) :
    ∀ {names : List String} {target : Expr}, (∀ name ∈ names, isIdentifier name = true) →
      Settles (readSuffixes number · (names.foldl .field target) rest) result →
      Settles (readSuffixes number · target (behind '.' (names.map String.toList) ++ rest)) result
  | [], _, _, settled => settled
  | name :: names, target, valid, settled => by
    rw [List.map_cons, behind, List.flatMap_cons, List.cons_append, List.cons_append,
      List.append_assoc]
    refine Settles.step (fun fuel => readSuffixes_access fuel target
      (valid name List.mem_cons_self) (endsWord_behind ends)) ?_
    exact settles_behind ends (fun other member => valid other (List.mem_cons_of_mem name member))
      settled

/-- A dotted name is read as a chain of its parts. -/
theorem settles_chain {name : String} {rest : List Char} {result : Expr × List Char}
    (parts : ∀ part ∈ dottedParts name, IsName part) (ends : EndsWord rest)
    (suffixes : Settles (readSuffixes number · (chain (dottedParts name)) rest) result) :
    Settles (readOperand number · (name.toList ++ rest)) result := by
  obtain ⟨part, others, split⟩ := List.exists_cons_of_ne_nil (dottedParts_ne_nil name)
  rw [split] at parts suffixes
  rw [toList_of_dottedParts split, List.append_assoc]
  have isName := parts part List.mem_cons_self
  have stops : Stops isIdentifierPart (behind '.' (others.map String.toList) ++ rest) :=
    (endsWord_behind ends).1
  have first : Settles (readAtom number · _) _ := settles_word isName.1 isName.ne_new stops
  rw [isName.wordExpr] at first
  exact settles_operand first (settles_behind ends
    (fun other member => (parts other (List.mem_cons_of_mem part member)).1) suffixes)

/-- A type that stands for itself is read back in its normal form. -/
theorem reads_typeName {type : TypeRef}
    (free : ∀ name ∈ typeNames type, ∀ part ∈ dottedParts name, IsFreeName part) :
    ReadsOperand number (typeText imports type).toList (normalTypeName imports type) := by
  obtain ⟨name, arguments⟩ := type
  intro rest result ends suffixes
  have parts := isName_of_csharpTypeName imports (free name List.mem_cons_self)
  cases arguments with
  | nil =>
    rw [typeText_plain]
    exact settles_chain parts ends.endsWord suffixes
  | cons type types =>
    rw [typeText_arguments]
    refine settles_chain parts (endsWord_cons rfl (by decide)) ?_
    refine Settles.step (fun fuel => by rw [readSuffixes, spelled_chain]) ?_
    have inside := reads_typeTexts imports (type :: types) (List.cons_ne_nil _ _)
      (fun other member => free other (List.mem_cons_of_mem name member)) rest
    exact inside.bind suffixes

/-! ## Arguments -/

/-- The texts are read as the arguments of a call, up to the parenthesis behind them. -/
def ReadsArguments (number : Numeral → Binary64) (texts : List String) (es : List Expr) : Prop :=
  ∀ rest,
    Settles (readArguments number · ((", ".intercalate texts).toList ++ ')' :: rest)) (es, rest)

theorem readExpression_closing (fuel : Nat) (rest : List Char) :
    readExpression number fuel (')' :: rest) = none := by
  match fuel with
  | 0 | 1 | 2 => rfl
  | fuel + 3 => rfl

/-- No expression begins with a closing parenthesis. -/
theorem ReadsExpression.ne_closing {text : List Char} {e : Expr}
    (reads : ReadsExpression number text e) {rest : List Char} (ends : EndsExpression rest) :
    ∀ others, text ++ rest ≠ ')' :: others := by
  intro others same
  obtain ⟨bound, enough⟩ := reads rest ends
  have read : readExpression number bound (text ++ rest) = some (e, rest) := enough bound le_rfl
  rw [same, readExpression_closing] at read
  cases read

theorem readsArguments_nil : ReadsArguments number [] [] :=
  fun _ => Settles.step (fun _ => rfl) (Settles.const _)

theorem readsArguments_singleton {text : String} {e : Expr}
    (reads : ReadsExpression number text.toList e) : ReadsArguments number [text] [e] := by
  intro rest
  have ends : EndsExpression (')' :: rest) := fun c member => by
    cases member
    exact .inr rfl
  rw [String.intercalate_singleton]
  refine Settles.step (fun fuel => by rw [readArguments]; exact reads.ne_closing ends) ?_
  exact (reads _ ends).bind (Settles.const _)

theorem ReadsArguments.cons {text next : String} {texts : List String} {e : Expr} {es : List Expr}
    (reads : ReadsExpression number text.toList e)
    (others : ReadsArguments number (next :: texts) es) :
    ReadsArguments number (text :: next :: texts) (e :: es) := by
  intro rest
  have ends (rest : List Char) : EndsExpression (',' :: rest) := fun c member => by
    cases member
    exact .inl rfl
  rw [intercalate_cons, List.append_assoc]
  refine Settles.step (fun fuel => by rw [readArguments]; exact reads.ne_closing (ends _)) ?_
  exact (reads _ (ends _)).bind ((others rest).bind (Settles.const _))

/-! ## Composite expressions -/

theorem ReadsOperand.access {text : List Char} {target : Expr} {name : String}
    (reads : ReadsOperand number text target) (valid : isIdentifier name = true) :
    ReadsOperand number (text ++ '.' :: name.toList) (.field target name) := by
  intro rest result ends suffixes
  rw [List.append_assoc]
  refine reads _ _ (endsTerm_access valid rest) ?_
  exact Settles.step (fun fuel => readSuffixes_access fuel target valid ends.endsWord) suffixes

theorem ReadsOperand.call {text : List Char} {target : Expr} {name : String} {texts : List String}
    {es : List Expr} (reads : ReadsOperand number text target) (valid : isIdentifier name = true)
    (inside : ReadsArguments number texts es) :
    ReadsOperand number
      (text ++ '.' :: (name.toList ++ '(' :: ((", ".intercalate texts).toList ++ [')'])))
      (.invoke target name es) := by
  intro rest result ends suffixes
  simp only [List.append_assoc, List.cons_append, List.nil_append]
  refine reads _ _ (endsTerm_access valid _) ?_
  refine Settles.step (fun fuel => readSuffixes_call fuel target _ valid) ?_
  exact (inside rest).bind suffixes

theorem reads_create (imports : List String) {type : TypeRef} {texts : List String} {es : List Expr}
    (free : ∀ name ∈ typeNames type, ∀ part ∈ dottedParts name, IsFreeName part)
    (inside : ReadsArguments number texts es) :
    ReadsAtom number
      ("new".toList ++ ' ' :: ((typeText imports type).toList ++
        '(' :: ((", ".intercalate texts).toList ++ [')'])))
      (.create (printedType imports type) es) := by
  intro rest _
  simp only [List.append_assoc, List.cons_append, List.nil_append]
  refine Settles.step (fun fuel => readAtom_word fuel (by decide) (stops_cons.mpr rfl)) ?_
  refine Settles.step (fun fuel => by rw [readWord, if_pos rfl, expect_self, Option.bind_some]) ?_
  refine Settles.bind (reads_typeText imports type free (endsType_cons rfl (by decide))) ?_
  exact (inside rest).bind (Settles.const _)

theorem readOperator_sign (operator : Operator) (rest : List Char) :
    readOperator ((operatorSign operator).toList ++ ' ' :: rest) =
      some (normalOperator operator, rest) := by
  cases operator <;> rfl

theorem reads_binary {left right : List Char} {first second : Expr} (operator : Operator)
    (reads : ReadsOperand number left first) (reads' : ReadsOperand number right second) :
    ReadsExpression number
      (left ++ ' ' :: ((operatorSign operator).toList ++ ' ' :: right))
      (.binary first (normalOperator operator) second) := by
  intro rest ends
  simp only [List.append_assoc, List.cons_append]
  refine Settles.step (fun fuel => by rw [readExpression]) ?_
  have blank (rest : List Char) : EndsOperand (' ' :: rest) := fun c member => by
    cases member
    exact .inl rfl
  refine Settles.bind (reads _ _ (.inl (blank _)) (settles_noSuffixes (blank _))) ?_
  have sign : Settles
      (fun _ => readOperator ((operatorSign operator).toList ++ ' ' :: (right ++ rest)))
      (normalOperator operator, right ++ rest) := by
    rw [readOperator_sign]
    exact Settles.const _
  have last := reads' rest (second, rest) (.inl ends.endsOperand)
    (settles_noSuffixes ends.endsOperand)
  exact sign.bind (last.bind (Settles.const _))

/-! ## All expressions -/

/-- Numerals are taken for the numbers that are written as them. -/
def ReadsNumbers (number : Numeral → Binary64) : Prop :=
  ∀ x : Binary64, x.isFinite = true → number x.shortest.numeral = x.unsignedZero

/-- The text of an expression is read as its normal form, on its own and as an operand. -/
structure Reads (number : Numeral → Binary64) (imports : List String) (e : Expr) : Prop where
  expression : ReadsExpression number (expressionText imports e).toList (normal imports e)
  operand : ReadsOperand number (operand e (expressionText imports e)).toList (normal imports e)

theorem Reads.ofOperand {e : Expr} (plain : e.isBinary = false)
    (reads : ReadsOperand number (expressionText imports e).toList (normal imports e)) :
    Reads number imports e where
  expression := reads.expression
  operand := by
    rw [CSharp.operand, plain]
    exact reads

theorem Reads.target {e : Expr} (reads : Reads number imports e) (plain : e.isBinary = false) :
    ReadsOperand number (expressionText imports e).toList (normal imports e) := by
  have back := reads.operand
  rw [CSharp.operand, plain] at back
  exact back

theorem reads_access {target : Expr} {name : String} (free : IsFreeName name)
    (plain : target.isBinary = false) (reads : Reads number imports target) :
    ReadsOperand number (expressionText imports (.field target name)).toList
      (normal imports (.field target name)) := by
  have back := (reads.target plain).access free.1
  rw [expressionText, normal]
  simpa using back

theorem reads_literal {value : Literal}
    (numbers : ReadsNumbers number)
    (readable : IsReadable (.literal value)) :
    ReadsAtom number (literalText value).toList (.literal (normalLiteral value)) := by
  cases value with
  | null => exact reads_word "null" (by decide) (by decide)
  | bool value =>
    cases value with
    | true => exact reads_word "true" (by decide) (by decide)
    | false => exact reads_word "false" (by decide) (by decide)
  | text value => exact reads_quote value
  | number value =>
    have finite : value.isFinite = true := by
      have clean := readable.clean (.number value) List.mem_cons_self
      by_contra infinite
      rw [causeAt, numberCause, if_neg infinite] at clean
      cases clean
    rw [literalText, if_pos finite, Binary64.text, if_pos finite, Decimal.text_eq,
      String.toList_ofList, normalLiteral, ← numbers value finite]
    exact reads_numeral (Decimal.isWritten_numeral _)

mutual

/-- **What is written for an expression is read back as its normal form.** -/
theorem reads_expressionText
    (numbers : ReadsNumbers number) :
    ∀ e : Expr, IsReadable e → Reads number imports e
  | .literal value, readable => by
    refine Reads.ofOperand rfl ?_
    rw [expressionText, normal]
    exact (reads_literal numbers readable).operand
  | .this, _ => by
    refine Reads.ofOperand rfl ?_
    rw [expressionText, normal]
    exact (reads_word "this" (by decide) (by decide)).operand
  | .field target name, readable => by
    obtain ⟨free, plain, inner⟩ := readable.access
    exact .ofOperand rfl (reads_access free plain (reads_expressionText numbers target inner))
  | .property target name, readable => by
    obtain ⟨free, plain, inner⟩ := readable.asField.access
    exact .ofOperand rfl (reads_access free plain (reads_expressionText numbers target inner))
  | .variableRef name, readable => .ofOperand rfl (reads_name readable.name.isName).operand
  | .argumentRef name, readable =>
    .ofOperand rfl (reads_name readable.asVariable.name.isName).operand
  | .typeName type, readable => by
    refine Reads.ofOperand rfl ?_
    rw [expressionText, normal]
    exact reads_typeName readable.types
  | .create type arguments, readable => by
    obtain ⟨free, inner⟩ := readable.create
    refine Reads.ofOperand rfl ?_
    rw [expressionText, normal]
    have back := (reads_create imports free
      (reads_expressionTexts numbers arguments inner)).operand
    simpa using back
  | .invoke target method arguments, readable => by
    obtain ⟨free, plain, inner, inner'⟩ := readable.invoke
    have reads := (reads_expressionText numbers target inner).target plain
    refine Reads.ofOperand rfl ?_
    rw [expressionText, normal]
    have back := reads.call free.1 (reads_expressionTexts numbers arguments inner')
    simpa using back
  | .binary left operator right, readable => by
    obtain ⟨inner, inner'⟩ := readable.binary
    have back := reads_binary operator (reads_expressionText numbers left inner).operand
      (reads_expressionText numbers right inner').operand
    have whole : ReadsExpression number
        (expressionText imports (.binary left operator right)).toList
        (normal imports (.binary left operator right)) := by
      rw [expressionText, normal]
      simpa using back
    refine ⟨whole, ?_⟩
    have enclosed := whole.parenthesised
    simpa [operand, Expr.isBinary] using enclosed
  | .foreign node, readable => by
    have clean := readable.clean (.foreign node.kind) (by simp [Expr.sites])
    cases clean

theorem reads_expressionTexts
    (numbers : ReadsNumbers number) :
    ∀ es : List Expr, AreReadable es →
      ReadsArguments number (expressionTexts imports es) (normals imports es)
  | [], _ => readsArguments_nil
  | [e], readable => by
    have first := (reads_expressionText numbers e readable.cons.1).expression
    exact readsArguments_singleton first
  | e :: next :: es, readable => by
    have first := (reads_expressionText numbers e readable.cons.1).expression
    have others := reads_expressionTexts numbers (next :: es) readable.cons.2
    exact ReadsArguments.cons first others

end

end ServiceWriter.CSharp

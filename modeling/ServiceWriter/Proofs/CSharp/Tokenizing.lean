import ServiceWriter.Proofs.CSharp.Tokens

/-!
# The tokens of a C# expression

The text of an expression is what is written for its tokens (`written_expressionTokens`), and it is
lexed into them (`lexes_expressionText`). All that is asked of the expression is that nothing is
wrong with any part of it (`IsSound`); its targets may be of any kind.
-/

set_option autoImplicit false

namespace ServiceWriter.CSharp

open Text

/-! ## Tokens of types and expressions -/

/-- Lists of tokens with a comma between each two. -/
def joined : List (List Token) → List Token
  | [] => []
  | [last] => last
  | first :: rest => first ++ .mark .comma :: joined rest

/-- The tokens of a dotted name. -/
def nameTokens (name : String) : List Token :=
  match dottedParts name with
  | [] => []
  | part :: others => .word part :: others.flatMap fun other => [.mark .dot, .word other]

mutual

/-- The tokens of a type as it is printed. -/
def typeTokens (imports : List String) : TypeRef → List Token
  | .mk name arguments =>
    nameTokens (csharpTypeName imports name) ++
      (if arguments.isEmpty then []
        else .mark .less :: (joined (typesTokens imports arguments) ++ [.mark .greater]))

/-- The tokens of a list of types. -/
def typesTokens (imports : List String) : List TypeRef → List (List Token)
  | [] => []
  | type :: rest => typeTokens imports type :: typesTokens imports rest

end

/-- The numeral without its sign. -/
def unsigned (numeral : Numeral) : Numeral := { numeral with negative := false }

/-- The tokens of a numeral: its sign is a mark of its own. -/
def numeralTokens (numeral : Numeral) : List Token :=
  if numeral.negative then [.mark .minus, .number (unsigned numeral)] else [.number numeral]

/-- The tokens of a constant. -/
def literalTokens : Literal → List Token
  | .null => [.word "null"]
  | .bool value => [.word (if value then "true" else "false")]
  | .text value => [.quoted value]
  | .number value => numeralTokens value.shortest.numeral

/-- The tokens of an operand, in parentheses if it is itself an application of an operator. -/
def operandTokens (e : Expr) (tokens : List Token) : List Token :=
  if e.isBinary then .mark .opening :: (tokens ++ [.mark .closing]) else tokens

mutual

/-- The tokens of an expression. -/
def expressionTokens (imports : List String) : Expr → List Token
  | .literal value => literalTokens value
  | .this => [.word "this"]
  | .field target name | .property target name =>
    expressionTokens imports target ++ [.mark .dot, .word name]
  | .variableRef name | .argumentRef name => [.word name]
  | .typeName type => typeTokens imports type
  | .create type arguments =>
    .word "new" :: (typeTokens imports type ++
      .mark .opening :: (joined (expressionsTokens imports arguments) ++ [.mark .closing]))
  | .invoke target method arguments =>
    expressionTokens imports target ++ .mark .dot :: .word method ::
      .mark .opening :: (joined (expressionsTokens imports arguments) ++ [.mark .closing])
  | .binary left operator right =>
    operandTokens left (expressionTokens imports left) ++ .operator (normalOperator operator) ::
      operandTokens right (expressionTokens imports right)
  | .foreign _ => []

/-- The tokens of a list of expressions. -/
def expressionsTokens (imports : List String) : List Expr → List (List Token)
  | [] => []
  | e :: rest => expressionTokens imports e :: expressionsTokens imports rest

end

/-! ## Sound expressions -/

/-- The parts of the names of a type may be written as they stand. -/
def IsFreeType (type : TypeRef) : Prop :=
  ∀ name ∈ typeNames type, ∀ part ∈ dottedParts name, IsFreeName part

/-- Nothing is wrong with the expression itself. -/
def IsSound : Expr → Prop
  | .literal (.number value) => value.isFinite = true
  | .field _ name | .property _ name | .invoke _ name _ | .variableRef name | .argumentRef name =>
    IsFreeName name
  | .typeName type | .create type _ => IsFreeType type
  | .foreign _ => False
  | _ => True

/-- Nothing is wrong with any part of the expression. -/
def IsSoundThrough (e : Expr) : Prop := ∀ part ∈ e.parts, IsSound part

/-! ## What is written -/

variable {imports : List String}

theorem written_word {word : String} (notNew : word ≠ "new") (rest : List Token) :
    written (.word word :: rest) = word.toList ++ written rest := by
  have after : Token.isSpacedAfter (.word word) = false := decide_eq_false notNew
  rw [written_cons, Token.written, after]
  simp [blankIf, Token.chars, Token.isSpacedBefore]

theorem written_mark {mark : Mark} (plain : mark ≠ .comma) (rest : List Token) :
    written (.mark mark :: rest) = mark.char :: written rest := by
  cases mark with
  | comma => exact absurd rfl plain
  | _ => rfl

theorem written_comma (rest : List Token) :
    written (.mark .comma :: rest) = ',' :: ' ' :: written rest :=
  rfl

theorem written_singleton (token : Token) : written [token] = token.written := by
  rw [written_cons]
  exact List.append_nil _

theorem written_nameTokens {name : String} (parts : ∀ part ∈ dottedParts name, part ≠ "new") :
    written (nameTokens name) = name.toList := by
  obtain ⟨part, others, split⟩ := List.exists_cons_of_ne_nil (dottedParts_ne_nil name)
  have behindDots : ∀ others : List String, (∀ other ∈ others, other ≠ "new") →
      written (others.flatMap fun other => [.mark .dot, .word other]) =
        behind '.' (others.map String.toList) := by
    intro others
    induction others with
    | nil => exact fun _ => rfl
    | cons other rest ih =>
      intro apart
      rw [List.forall_mem_cons] at apart
      rw [List.flatMap_cons, List.cons_append, List.cons_append, List.nil_append,
        written_mark (by decide), written_word apart.1, ih apart.2]
      rfl
  rw [split, List.forall_mem_cons] at parts
  rw [nameTokens, split, toList_of_dottedParts split]
  simp only
  rw [written_word parts.1, behindDots others parts.2]

theorem isFreeType_argument {name : String} {arguments : List TypeRef}
    (free : IsFreeType (.mk name arguments)) :
    ∀ other ∈ typesNames arguments, ∀ part ∈ dottedParts other, IsFreeName part :=
  fun other among => free other (List.mem_cons_of_mem name among)

theorem isName_of_isFreeType {name : String} {arguments : List TypeRef}
    (free : IsFreeType (.mk name arguments)) :
    ∀ part ∈ dottedParts (csharpTypeName imports name), IsName part :=
  isName_of_csharpTypeName imports (free name List.mem_cons_self)

mutual

theorem written_typeTokens : ∀ type : TypeRef, IsFreeType type →
    written (typeTokens imports type) = (typeText imports type).toList
  | .mk name arguments, free => by
    have names : written (nameTokens (csharpTypeName imports name)) =
        (csharpTypeName imports name).toList :=
      written_nameTokens fun part among => (isName_of_isFreeType free part among).ne_new
    rw [typeTokens, written_append, names]
    cases arguments with
    | nil =>
      rw [typeText_plain]
      exact List.append_nil _
    | cons type types =>
      have inside := written_typesTokens (type :: types) (isFreeType_argument free)
      have text := typeText_arguments imports name type types []
      rw [List.append_nil] at text
      rw [text, List.isEmpty_cons, if_neg Bool.false_ne_true, written_mark (by decide),
        written_append, inside]
      rfl

theorem written_typesTokens : ∀ types : List TypeRef,
    (∀ name ∈ typesNames types, ∀ part ∈ dottedParts name, IsFreeName part) →
    written (joined (typesTokens imports types)) = (", ".intercalate (typeTexts imports types)).toList
  | [], _ => rfl
  | [type], free => by
    rw [typesTokens, typesTokens, joined, typeTexts, typeTexts, String.intercalate_singleton]
    exact written_typeTokens type fun name among => free name (List.mem_append_left _ among)
  | type :: next :: types, free => by
    have first := written_typeTokens type
      fun name among => free name (List.mem_append_left _ among)
    have others := written_typesTokens (next :: types)
      fun name among => free name (List.mem_append_right _ among)
    rw [typesTokens, typesTokens, joined, typeTexts, typeTexts, intercalate_cons, written_append,
      written_comma, first, ← typesTokens, others, ← typeTexts]
    exact List.cons_ne_nil _ _

end

theorem written_numeralTokens (numeral : Numeral) :
    written (numeralTokens numeral) = numeral.chars := by
  obtain ⟨negative, whole, fraction, power⟩ := numeral
  cases negative with
  | false =>
    rw [numeralTokens, if_neg Bool.false_ne_true, written_singleton]
    exact List.append_nil _
  | true =>
    rw [numeralTokens, if_pos rfl, written_mark (by decide), written_singleton]
    exact congrArg ('-' :: ·) (List.append_nil _)

theorem written_literalTokens {value : Literal} (sound : IsSound (.literal value)) :
    written (literalTokens value) = (literalText value).toList := by
  cases value with
  | null => exact (written_word (by decide) []).trans (List.append_nil _)
  | bool value => cases value <;> exact (written_word (by decide) []).trans (List.append_nil _)
  | text value =>
    rw [literalTokens, written_singleton, literalText]
    simp [Token.written, Token.isSpacedBefore, Token.isSpacedAfter, blankIf, Token.chars]
  | number value =>
    have finite : value.isFinite = true := sound
    rw [literalTokens, written_numeralTokens, literalText, if_pos finite, Binary64.text,
      if_pos finite, Decimal.text_eq, String.toList_ofList]

theorem written_operandTokens (e : Expr) {tokens : List Token} {text : String}
    (same : written tokens = text.toList) :
    written (operandTokens e tokens) = (operand e text).toList := by
  unfold operandTokens operand
  split
  · rw [written_mark (by decide), written_append, same]
    simp [written_singleton, Token.written, Token.isSpacedBefore, Token.isSpacedAfter, blankIf,
      Token.chars, Mark.char]
  · exact same

theorem operatorSign_written (operator : Operator) (rest : List Token) :
    written (.operator (normalOperator operator) :: rest) =
      ' ' :: ((operatorSign operator).toList ++ ' ' :: written rest) := by
  cases operator <;> rfl

namespace IsSoundThrough

variable {e target left right : Expr} {name method : String} {type : TypeRef} {operator : Operator}
  {arguments : List Expr}

theorem self (sound : IsSoundThrough e) : IsSound e := by
  refine sound e ?_
  cases e <;> rw [Expr.parts] <;> exact List.mem_cons_self

theorem asField (sound : IsSoundThrough (.property target name)) :
    IsSoundThrough (.field target name) := by
  intro part inside
  rw [Expr.parts] at inside
  rcases List.mem_cons.mp inside with rfl | inside
  · exact sound.self
  · exact sound part (by rw [Expr.parts]; exact List.mem_cons_of_mem _ inside)

theorem reached (sound : IsSoundThrough (.field target name)) : IsSoundThrough target :=
  fun part inside => sound part (by rw [Expr.parts]; exact List.mem_cons_of_mem _ inside)

theorem created (sound : IsSoundThrough (.create type arguments)) :
    ∀ part ∈ exprParts arguments, IsSound part :=
  fun part inside => sound part (by rw [Expr.parts]; exact List.mem_cons_of_mem _ inside)

theorem invoked (sound : IsSoundThrough (.invoke target method arguments)) :
    IsSoundThrough target ∧ ∀ part ∈ exprParts arguments, IsSound part := by
  have inside : ∀ part ∈ target.parts ++ exprParts arguments, IsSound part := fun part inside =>
    sound part (by rw [Expr.parts]; exact List.mem_cons_of_mem _ inside)
  exact List.forall_mem_append.mp inside

theorem operands (sound : IsSoundThrough (.binary left operator right)) :
    IsSoundThrough left ∧ IsSoundThrough right := by
  have inside : ∀ part ∈ left.parts ++ right.parts, IsSound part := fun part inside =>
    sound part (by rw [Expr.parts]; exact List.mem_cons_of_mem _ inside)
  exact List.forall_mem_append.mp inside

end IsSoundThrough

theorem ne_new_of_isFreeName {name : String} (free : IsFreeName name) : name ≠ "new" :=
  free.isName.ne_new

theorem written_closing (tokens : List Token) :
    written (tokens ++ [.mark .closing]) = written tokens ++ [')'] := by
  rw [written_append, written_singleton]
  rfl

theorem written_access {tokens : List Token} {text name : String} (free : IsFreeName name)
    (same : written tokens = text.toList) :
    written (tokens ++ [.mark .dot, .word name]) = (text ++ "." ++ name).toList := by
  rw [written_append, same, written_mark (by decide), written_word (ne_new_of_isFreeName free)]
  simp [written, Mark.char]

mutual

/-- **The text of an expression is what is written for its tokens.** -/
theorem written_expressionTokens : ∀ e : Expr, IsSoundThrough e →
    written (expressionTokens imports e) = (expressionText imports e).toList
  | .literal value, sound => by
    rw [expressionTokens, expressionText]
    exact written_literalTokens sound.self
  | .this, _ => by
    rw [expressionTokens, expressionText, written_word (by decide)]
    exact List.append_nil _
  | .field target name, sound => by
    have free : IsFreeName name := sound.self
    rw [expressionTokens, expressionText]
    exact written_access free (written_expressionTokens target sound.reached)
  | .property target name, sound => by
    have free : IsFreeName name := sound.self
    rw [expressionTokens, expressionText]
    exact written_access free (written_expressionTokens target sound.asField.reached)
  | .variableRef name, sound | .argumentRef name, sound => by
    have free : IsFreeName name := sound.self
    rw [expressionTokens, expressionText, written_word (ne_new_of_isFreeName free)]
    exact List.append_nil _
  | .typeName type, sound => by
    rw [expressionTokens, expressionText, written_typeTokens type sound.self]
  | .create type arguments, sound => by
    have new : (Token.word "new").written = ['n', 'e', 'w', ' '] := rfl
    rw [expressionTokens, written_cons, new, written_append, written_typeTokens type sound.self,
      written_mark (by decide), written_closing, written_expressionsTokens arguments sound.created,
      expressionText]
    simp [Mark.char]
  | .invoke target method arguments, sound => by
    have free : IsFreeName method := sound.self
    obtain ⟨inner, inner'⟩ := sound.invoked
    rw [expressionTokens, written_append, written_expressionTokens target inner,
      written_mark (by decide), written_word (ne_new_of_isFreeName free), written_mark (by decide),
      written_closing, written_expressionsTokens arguments inner', expressionText]
    simp [Mark.char]
  | .binary left operator right, sound => by
    obtain ⟨inner, inner'⟩ := sound.operands
    rw [expressionTokens, written_append, operatorSign_written,
      written_operandTokens left (written_expressionTokens left inner),
      written_operandTokens right (written_expressionTokens right inner'), expressionText]
    simp
  | .foreign _, sound => sound.self.elim

theorem written_expressionsTokens : ∀ es : List Expr, (∀ part ∈ exprParts es, IsSound part) →
    written (joined (expressionsTokens imports es)) =
      (", ".intercalate (expressionTexts imports es)).toList
  | [], _ => rfl
  | [e], sound => by
    rw [expressionsTokens, expressionsTokens, joined, expressionTexts, expressionTexts,
      String.intercalate_singleton]
    exact written_expressionTokens e fun part inside => sound part (List.mem_append_left _ inside)
  | e :: next :: es, sound => by
    have first := written_expressionTokens e
      fun part inside => sound part (List.mem_append_left _ inside)
    have others := written_expressionsTokens (next :: es)
      fun part inside => sound part (List.mem_append_right _ inside)
    rw [expressionsTokens, expressionsTokens, joined, expressionTexts, expressionTexts,
      intercalate_cons, written_append, written_comma, first, ← expressionsTokens, others,
      ← expressionTexts]
    exact List.cons_ne_nil _ _

end

/-! ## Tokens that fit together -/

/-- What is written for the tokens goes on with no word and no number before it. -/
def Closes (rest : List Token) : Prop :=
  Stops isIdentifierPart (written rest) ∧ Numeral.endsNumber (written rest) = true

/-- The tokens fit together, whatever closes behind them. -/
def Fitting (tokens : List Token) : Prop :=
  ∀ rest, Closes rest → FitTogether rest → FitTogether (tokens ++ rest)

/-- The tokens fit together and close themselves. -/
def Trailing (tokens : List Token) : Prop :=
  ∀ rest, Closes rest → FitTogether rest → Closes (tokens ++ rest) ∧ FitTogether (tokens ++ rest)

theorem closes_nil : Closes [] := ⟨stops_nil, rfl⟩

section

variable {tokens tokens' : List Token} {word : String}

theorem fitting_nil : Fitting [] := fun _ _ fits => fits

theorem trailing_nil : Trailing [] := fun _ closes fits => ⟨closes, fits⟩

theorem Fitting.append (fitting : Fitting tokens) (trailing : Trailing tokens') :
    Fitting (tokens ++ tokens') := by
  intro rest closes fits
  rw [List.append_assoc]
  obtain ⟨closes', fits'⟩ := trailing rest closes fits
  exact fitting _ closes' fits'

theorem Trailing.append (trailing : Trailing tokens) (trailing' : Trailing tokens') :
    Trailing (tokens ++ tokens') := by
  intro rest closes fits
  rw [List.append_assoc]
  obtain ⟨closes', fits'⟩ := trailing' rest closes fits
  exact trailing _ closes' fits'

theorem fitting_mark (mark : Mark) (fitting : Fitting tokens) : Fitting (.mark mark :: tokens) :=
  fun rest closes fits => ⟨trivial, fitting rest closes fits⟩

/-- Each mark closes, apart from a dot: a digit behind that would go on with a number. -/
theorem trailing_mark {mark : Mark} (apart : mark ≠ .dot) (fitting : Fitting tokens) :
    Trailing (.mark mark :: tokens) := by
  intro rest closes fits
  refine ⟨?_, trivial, fitting rest closes fits⟩
  cases mark with
  | dot => exact absurd rfl apart
  | _ => exact ⟨stops_cons.mpr rfl, rfl⟩

theorem trailing_operator (operator : Operator) (fitting : Fitting tokens) :
    Trailing (.operator (normalOperator operator) :: tokens) := by
  intro rest closes fits
  refine ⟨?_, ?_, fitting rest closes fits⟩
  · rw [List.cons_append, Closes, operatorSign_written]
    exact ⟨stops_cons.mpr rfl, rfl⟩
  · cases operator <;> rfl

theorem fitting_word (valid : isIdentifier word = true) : Fitting [.word word] := by
  intro rest closes fits
  refine ⟨⟨valid, ?_⟩, fits⟩
  cases Token.isSpacedAfter (.word word) with
  | false => exact closes.1
  | true => exact stops_cons.mpr rfl

theorem fitting_new (fitting : Fitting tokens) : Fitting (.word "new" :: tokens) :=
  fun rest closes fits => ⟨⟨by decide, stops_cons.mpr rfl⟩, fitting rest closes fits⟩

/-- A name behind a dot closes before the dot. -/
theorem trailing_access (valid : isIdentifier word = true) :
    Trailing [.mark .dot, .word word] := by
  intro rest closes fits
  refine ⟨⟨stops_cons.mpr rfl, ?_⟩, trivial, fitting_word valid rest closes fits⟩
  obtain ⟨c, others, chars, start⟩ := exists_head valid
  have begins : ∃ others, written ([.mark .dot, .word word] ++ rest) = '.' :: c :: others := by
    rw [List.cons_append, written_mark (by decide), List.cons_append, written_cons, Token.written,
      Token.chars, chars]
    exact ⟨_, rfl⟩
  obtain ⟨others, begins⟩ := begins
  rw [begins, Numeral.endsNumber, not_isDigit_of_isIdentifierStart start]
  rfl

theorem fitting_number {numeral : Numeral} (isWritten : numeral.IsWritten)
    (plain : numeral.negative = false) : Fitting [.number numeral] :=
  fun _ closes fits => ⟨⟨isWritten, plain, closes.2⟩, fits⟩

theorem fitting_quoted (value : String) : Fitting [.quoted value] :=
  fun _ _ fits => ⟨trivial, fits⟩

theorem fitting_closing (fitting : Fitting tokens) : Fitting (tokens ++ [.mark .closing]) :=
  fitting.append (trailing_mark (by decide) fitting_nil)

theorem fitting_joined : ∀ {lists : List (List Token)}, (∀ tokens ∈ lists, Fitting tokens) →
    Fitting (joined lists)
  | [], _ => fitting_nil
  | [tokens], each => each tokens List.mem_cons_self
  | tokens :: next :: lists, each => by
    have others : Fitting (joined (next :: lists)) :=
      fitting_joined fun tokens among => each tokens (List.mem_cons_of_mem _ among)
    exact (each tokens List.mem_cons_self).append (trailing_mark (by decide) others)

end

theorem fitting_nameTokens {name : String} (parts : ∀ part ∈ dottedParts name, IsName part) :
    Fitting (nameTokens name) := by
  obtain ⟨part, others, split⟩ := List.exists_cons_of_ne_nil (dottedParts_ne_nil name)
  have behindDots : ∀ others : List String, (∀ other ∈ others, IsName other) →
      Trailing (others.flatMap fun other => [.mark .dot, .word other]) := by
    intro others
    induction others with
    | nil => exact fun _ => trailing_nil
    | cons other rest ih =>
      intro each
      rw [List.forall_mem_cons] at each
      exact (trailing_access each.1.1).append (ih each.2)
  rw [split, List.forall_mem_cons] at parts
  rw [nameTokens, split]
  exact (fitting_word parts.1.1).append (behindDots others parts.2)

mutual

theorem fitting_typeTokens : ∀ type : TypeRef, IsFreeType type → Fitting (typeTokens imports type)
  | .mk name arguments, free => by
    have names : Fitting (nameTokens (csharpTypeName imports name)) :=
      fitting_nameTokens (isName_of_isFreeType free)
    rw [typeTokens]
    split
    · rw [List.append_nil]
      exact names
    · have inside := fitting_joined (fitting_typesTokens arguments (isFreeType_argument free))
      refine names.append (trailing_mark (by decide) (inside.append ?_))
      exact trailing_mark (by decide) fitting_nil

theorem fitting_typesTokens : ∀ types : List TypeRef,
    (∀ name ∈ typesNames types, ∀ part ∈ dottedParts name, IsFreeName part) →
    ∀ tokens ∈ typesTokens imports types, Fitting tokens
  | [], _ => fun _ among => nomatch among
  | type :: types, free => by
    rw [typesTokens, List.forall_mem_cons]
    exact ⟨fitting_typeTokens type fun name among => free name (List.mem_append_left _ among),
      fitting_typesTokens types fun name among => free name (List.mem_append_right _ among)⟩

end

theorem isWritten_unsigned {numeral : Numeral} (isWritten : numeral.IsWritten) :
    (unsigned numeral).IsWritten :=
  ⟨isWritten.whole_ne_nil, isWritten.whole_digits, isWritten.fraction_digits,
    isWritten.power_digits⟩

theorem fitting_literalTokens (value : Literal) : Fitting (literalTokens value) := by
  cases value with
  | null => exact fitting_word (by decide)
  | bool value => cases value <;> exact fitting_word (by decide)
  | text value => exact fitting_quoted value
  | number value =>
    have isWritten := Decimal.isWritten_numeral value.shortest
    rw [literalTokens, numeralTokens]
    split
    · exact fitting_mark .minus (fitting_number (isWritten_unsigned isWritten) rfl)
    · rename_i plain
      exact fitting_number isWritten (Bool.not_eq_true _ ▸ plain)

theorem fitting_operandTokens (e : Expr) {tokens : List Token} (fitting : Fitting tokens) :
    Fitting (operandTokens e tokens) := by
  unfold operandTokens
  split
  · exact fitting_mark .opening (fitting_closing fitting)
  · exact fitting

theorem trailing_call {tokens : List Token} (fitting : Fitting tokens) :
    Trailing (.mark .opening :: (tokens ++ [.mark .closing])) :=
  trailing_mark (by decide) (fitting_closing fitting)

mutual

theorem fitting_expressionTokens : ∀ e : Expr, IsSoundThrough e →
    Fitting (expressionTokens imports e)
  | .literal value, _ => by
    rw [expressionTokens]
    exact fitting_literalTokens value
  | .this, _ => by
    rw [expressionTokens]
    exact fitting_word (by decide)
  | .field target name, sound => by
    have free : IsFreeName name := sound.self
    rw [expressionTokens]
    exact (fitting_expressionTokens target sound.reached).append (trailing_access free.1)
  | .property target name, sound => by
    have free : IsFreeName name := sound.self
    rw [expressionTokens]
    exact (fitting_expressionTokens target sound.asField.reached).append (trailing_access free.1)
  | .variableRef name, sound | .argumentRef name, sound => by
    have free : IsFreeName name := sound.self
    rw [expressionTokens]
    exact fitting_word free.1
  | .typeName type, sound => by
    rw [expressionTokens]
    exact fitting_typeTokens type sound.self
  | .create type arguments, sound => by
    rw [expressionTokens]
    have inside := fitting_joined (fitting_expressionsTokens arguments sound.created)
    exact fitting_new ((fitting_typeTokens type sound.self).append (trailing_call inside))
  | .invoke target method arguments, sound => by
    have free : IsFreeName method := sound.self
    obtain ⟨inner, inner'⟩ := sound.invoked
    rw [expressionTokens]
    have inside := fitting_joined (fitting_expressionsTokens arguments inner')
    exact (fitting_expressionTokens target inner).append
      ((trailing_access free.1).append (trailing_call inside))
  | .binary left operator right, sound => by
    obtain ⟨inner, inner'⟩ := sound.operands
    rw [expressionTokens]
    exact (fitting_operandTokens left (fitting_expressionTokens left inner)).append
      (trailing_operator operator
        (fitting_operandTokens right (fitting_expressionTokens right inner')))
  | .foreign _, sound => sound.self.elim

theorem fitting_expressionsTokens : ∀ es : List Expr, (∀ part ∈ exprParts es, IsSound part) →
    ∀ tokens ∈ expressionsTokens imports es, Fitting tokens
  | [], _ => fun _ among => nomatch among
  | e :: es, sound => by
    rw [expressionsTokens, List.forall_mem_cons]
    exact ⟨fitting_expressionTokens e fun part inside => sound part (List.mem_append_left _ inside),
      fitting_expressionsTokens es fun part inside => sound part (List.mem_append_right _ inside)⟩

end

/-- **The text of an expression is lexed into its tokens.** -/
theorem lexes_expressionText {e : Expr} (sound : IsSoundThrough e) :
    Settles (lex · (expressionText imports e).toList) (expressionTokens imports e) := by
  have fits : FitTogether (expressionTokens imports e ++ []) :=
    fitting_expressionTokens e sound [] closes_nil trivial
  rw [List.append_nil] at fits
  rw [← written_expressionTokens e sound]
  exact settles_lex fits

end ServiceWriter.CSharp

import ServiceWriter.Proofs.CSharp.Tokenizing

/-!
# C# expressions read with precedence

The phrases of C# and a reader of tokens that follows the precedence of the language. Members, calls
and type arguments bind the operand right before them, then a minus, then the equalities, `&&` and
`||`, each from left to right. The reader takes operands with operators between them
(`Sequence`) and joins them level by level (`Sequence.phrase`).

An expression is written with parentheses around operands only, so that its text is not always that
of its own phrase. What its text is read as is computed from it instead (`sequenceOf`): what follows
a target follows the last operand in the text of the target (`reads_expressionTokens`).
-/

set_option autoImplicit false

namespace ServiceWriter.CSharp

open Text

/-! ## Phrases -/

/-- A phrase of C#, once it is known what belongs together. The name of a type is a phrase too. -/
inductive Phrase where
  | word (text : String)
  | number (numeral : Numeral)
  | quoted (value : String)
  | access (target : Phrase) (member : String)
  | generic (type : Phrase) (arguments : List Phrase)
  | call (callee : Phrase) (arguments : List Phrase)
  | create (type : Phrase) (arguments : List Phrase)
  | negated (operand : Phrase)
  | binary (left : Phrase) (sign : Operator) (right : Phrase)

/-- Operands with operators between them: those before the last one, the nearest first, and the last,
with or without a minus. -/
structure Sequence where
  before : List (Phrase × Operator)
  isNegated : Bool
  last : Phrase

namespace Sequence

/-- A phrase on its own. -/
def single (phrase : Phrase) : Sequence := ⟨[], false, phrase⟩

/-- The last operand with its minus. -/
def operand (s : Sequence) : Phrase := if s.isNegated then .negated s.last else s.last

/-- The sequence with something behind its last operand. A minus stays before that. -/
def follow (s : Sequence) (suffix : Phrase → Phrase) : Sequence := { s with last := suffix s.last }

/-- The sequence behind other operands. -/
def behind (s : Sequence) (before : List (Phrase × Operator)) : Sequence :=
  { s with before := s.before ++ before }

/-- Joins operands over the operators of one level, from left to right. -/
def joinLevel (level : Operator → Bool) :
    List (Phrase × Operator) → Phrase → List (Phrase × Operator) × Phrase
  | [], last => ([], last)
  | (left, sign) :: before, last =>
    let joined := joinLevel level before left
    if level sign then (joined.1, .binary joined.2 sign last) else ((joined.2, sign) :: joined.1, last)

/-- The equalities, which are of one level. -/
def isEquality : Operator → Bool
  | .identityEquality | .valueEquality | .identityInequality => true
  | .booleanAnd | .booleanOr => false

/-- What the operands are together: first the equalities are joined, then `&&`, then what is left. -/
def phrase (s : Sequence) : Phrase :=
  let equalities := joinLevel isEquality s.before s.operand
  let conjunctions := joinLevel (· == .booleanAnd) equalities.1 equalities.2
  (joinLevel (fun _ => true) conjunctions.1 conjunctions.2).2

/-- For `a && b == c || d`. -/
example (a b c d : Phrase) :
    phrase ⟨[(c, .booleanOr), (b, .identityEquality), (a, .booleanAnd)], false, d⟩ =
      .binary (.binary a .booleanAnd (.binary b .identityEquality c)) .booleanOr d :=
  rfl

end Sequence

/-! ## The reader -/

/-- Takes a mark off the front. -/
def takeMark (mark : Mark) : List Token → Option (List Token)
  | .mark kind :: rest => if kind = mark then some rest else none
  | _ => none

mutual

/-- Reads a type. -/
def phraseType : Nat → List Token → Option (Phrase × List Token)
  | fuel + 1, .word text :: rest => phraseTypeBehind fuel (.word text) rest
  | _, _ => none

/-- Reads on behind the name of a type. -/
def phraseTypeBehind : Nat → Phrase → List Token → Option (Phrase × List Token)
  | 0, _, _ => none
  | fuel + 1, type, .mark .dot :: .word text :: rest =>
    phraseTypeBehind fuel (.access type text) rest
  | fuel + 1, type, .mark .less :: rest =>
    (phraseTypes fuel rest).bind fun (types, rest) => some (.generic type types, rest)
  | _ + 1, type, rest => some (type, rest)

/-- Reads types up to the closing bracket. -/
def phraseTypes : Nat → List Token → Option (List Phrase × List Token)
  | 0, _ => none
  | fuel + 1, tokens => (phraseType fuel tokens).bind fun (type, rest) =>
    match rest with
    | .mark .comma :: rest =>
      (phraseTypes fuel rest).bind fun (types, rest) => some (type :: types, rest)
    | .mark .greater :: rest => some ([type], rest)
    | _ => none

end

mutual

/-- Reads a sequence of operands behind others. -/
def readSequence : Nat → List (Phrase × Operator) → List Token → Option (Sequence × List Token)
  | 0, _, _ => none
  | fuel + 1, before, .mark .minus :: tokens => (readPrimary fuel tokens).bind fun (atom, rest) =>
    readBehind fuel ⟨before, true, atom⟩ rest
  | fuel + 1, before, tokens => (readPrimary fuel tokens).bind fun (atom, rest) =>
    readBehind fuel ⟨before, false, atom⟩ rest

/-- Reads on behind the last operand. -/
def readBehind : Nat → Sequence → List Token → Option (Sequence × List Token)
  | 0, _, _ => none
  | fuel + 1, s, .mark .dot :: .word name :: rest => readBehind fuel (s.follow (.access · name)) rest
  | fuel + 1, s, .mark .opening :: rest => (phraseArguments fuel rest).bind fun (phrases, rest) =>
    readBehind fuel (s.follow (.call · phrases)) rest
  | fuel + 1, s, .mark .less :: rest => (phraseTypes fuel rest).bind fun (types, rest) =>
    readBehind fuel (s.follow (.generic · types)) rest
  | fuel + 1, s, .operator sign :: rest => readSequence fuel ((s.operand, sign) :: s.before) rest
  | _ + 1, s, rest => some (s, rest)

/-- Reads what an operand begins with. -/
def readPrimary : Nat → List Token → Option (Phrase × List Token)
  | 0, _ => none
  | fuel + 1, .word text :: rest =>
    if text = "new" then
      (phraseType fuel rest).bind fun (type, rest) => (takeMark .opening rest).bind fun rest =>
        (phraseArguments fuel rest).bind fun (phrases, rest) => some (.create type phrases, rest)
    else some (.word text, rest)
  | _ + 1, .number numeral :: rest => some (.number numeral, rest)
  | _ + 1, .quoted value :: rest => some (.quoted value, rest)
  | fuel + 1, .mark .opening :: rest => (readSequence fuel [] rest).bind fun (s, rest) =>
    (takeMark .closing rest).bind fun rest => some (s.phrase, rest)
  | _ + 1, _ => none

/-- Reads arguments up to the closing parenthesis. -/
def phraseArguments : Nat → List Token → Option (List Phrase × List Token)
  | 0, _ => none
  | _ + 1, .mark .closing :: rest => some ([], rest)
  | fuel + 1, tokens => (readSequence fuel [] tokens).bind fun (s, rest) =>
    match rest with
    | .mark .comma :: rest =>
      (phraseArguments fuel rest).bind fun (phrases, rest) => some (s.phrase :: phrases, rest)
    | .mark .closing :: rest => some ([s.phrase], rest)
    | _ => none

end

/-- The text is a sequence of operands in C#. -/
def ReadsAs (text : String) (s : Sequence) : Prop :=
  ∃ tokens, Settles (lex · text.toList) tokens ∧ Settles (readSequence · [] tokens) (s, [])

/-- A text is read in one way at most. -/
theorem ReadsAs.unique {text : String} {s s' : Sequence} (first : ReadsAs text s)
    (second : ReadsAs text s') : s = s' := by
  obtain ⟨tokens, lexed, read⟩ := first
  obtain ⟨tokens', lexed', read'⟩ := second
  obtain rfl := lexed.unique lexed'
  exact congrArg Prod.fst (read.unique read')

/-! ## What the reader makes of an expression -/

/-- The phrase of a dotted name. -/
def namePhrase (name : String) : Phrase :=
  match dottedParts name with
  | [] => .word ""
  | part :: others => others.foldl .access (.word part)

mutual

/-- The phrase of a type as it is printed. -/
def typePhrase (imports : List String) : TypeRef → Phrase
  | .mk name arguments =>
    if arguments.isEmpty then namePhrase (csharpTypeName imports name)
    else .generic (namePhrase (csharpTypeName imports name)) (typePhrases imports arguments)

/-- The phrases of a list of types. -/
def typePhrases (imports : List String) : List TypeRef → List Phrase
  | [] => []
  | type :: rest => typePhrase imports type :: typePhrases imports rest

end

/-- What the text of a constant is read as. -/
def literalSequence : Literal → Sequence
  | .null => .single (.word "null")
  | .bool value => .single (.word (if value then "true" else "false"))
  | .text value => .single (.quoted value)
  | .number value =>
    ⟨[], value.shortest.numeral.negative, .number (unsigned value.shortest.numeral)⟩

/-- What the text of an operand is read as, in parentheses if it is itself an application of an
operator. -/
def operandSequence (e : Expr) (s : Sequence) : Sequence :=
  if e.isBinary then .single s.phrase else s

mutual

/-- What the text of an expression is read as. -/
def sequenceOf (imports : List String) : Expr → Sequence
  | .literal value => literalSequence value
  | .this => .single (.word "this")
  | .field target name | .property target name =>
    (sequenceOf imports target).follow (.access · name)
  | .variableRef name | .argumentRef name => .single (.word name)
  | .typeName type => .single (typePhrase imports type)
  | .create type arguments =>
    .single (.create (typePhrase imports type) (phrasesOf imports arguments))
  | .invoke target method arguments =>
    ((sequenceOf imports target).follow (.access · method)).follow
      (.call · (phrasesOf imports arguments))
  | .binary left operator right =>
    let before := operandSequence left (sequenceOf imports left)
    (operandSequence right (sequenceOf imports right)).behind
      ((before.operand, normalOperator operator) :: before.before)
  | .foreign _ => .single (.word "")

/-- What the texts of a list of expressions are, each on its own. -/
def phrasesOf (imports : List String) : List Expr → List Phrase
  | [] => []
  | e :: rest => (sequenceOf imports e).phrase :: phrasesOf imports rest

end

/-! ## Reading types -/

/-- What can come behind a type. -/
def EndsPhraseType : List Token → Prop
  | .mark .dot :: .word _ :: _ | .mark .less :: _ => False
  | _ => True

/-- The tokens are read as the type before all that can come behind a type. -/
def ReadsType (tokens : List Token) (type : Phrase) : Prop :=
  ∀ rest, EndsPhraseType rest → Settles (phraseType · (tokens ++ rest)) (type, rest)

/-- The tokens are read as the types up to the bracket behind them. -/
def ReadsTypes (tokens : List Token) (types : List Phrase) : Prop :=
  ∀ rest, Settles (phraseTypes · (tokens ++ .mark .greater :: rest)) (types, rest)

theorem settles_noTypeSuffix {type : Phrase} {rest : List Token} (ends : EndsPhraseType rest) :
    Settles (phraseTypeBehind · type rest) (type, rest) := by
  refine Settles.step (fun fuel => ?_) (Settles.const _)
  rw [phraseTypeBehind]
  · rintro text others rfl
    exact ends
  · rintro others rfl
    exact ends

theorem settles_typeBehind {rest : List Token} {result : Phrase × List Token} :
    ∀ {names : List String} {type : Phrase},
      Settles (phraseTypeBehind · (names.foldl .access type) rest) result →
      Settles (phraseTypeBehind · type
        ((names.flatMap fun name => [.mark .dot, .word name]) ++ rest)) result
  | [], _, settled => settled
  | name :: names, type, settled => by
    rw [List.flatMap_cons, List.append_assoc]
    exact Settles.step (fun _ => rfl) (settles_typeBehind settled)

theorem settles_typeName {name : String} {rest : List Token} {result : Phrase × List Token}
    (behind : Settles (phraseTypeBehind · (namePhrase name) rest) result) :
    Settles (phraseType · (nameTokens name ++ rest)) result := by
  obtain ⟨part, others, split⟩ := List.exists_cons_of_ne_nil (dottedParts_ne_nil name)
  rw [namePhrase, split] at behind
  rw [nameTokens, split]
  exact Settles.step (fun _ => rfl) (settles_typeBehind behind)

variable {imports : List String}

mutual

/-- The tokens of a type are read as its phrase. -/
theorem reads_typeTokens : ∀ type : TypeRef,
    ReadsType (typeTokens imports type) (typePhrase imports type)
  | .mk name arguments => by
    intro rest ends
    rw [typeTokens, typePhrase, List.append_assoc]
    refine settles_typeName ?_
    cases arguments with
    | nil => exact settles_noTypeSuffix ends
    | cons type types =>
      have inside := reads_typesTokens (type :: types) (List.cons_ne_nil _ _) rest
      simp only [List.isEmpty_cons, Bool.false_eq_true, if_false, List.cons_append,
        List.append_assoc, List.nil_append]
      exact Settles.step (fun _ => rfl) (inside.bind (Settles.const _))

theorem reads_typesTokens : ∀ types : List TypeRef, types ≠ [] →
    ReadsTypes (joined (typesTokens imports types)) (typePhrases imports types)
  | [], nonempty => absurd rfl nonempty
  | [type], _ => by
    intro rest
    have ends : EndsPhraseType (.mark .greater :: rest) := trivial
    rw [typesTokens, typesTokens, joined, typePhrases, typePhrases]
    exact Settles.step (fun _ => rfl) ((reads_typeTokens type _ ends).bind (Settles.const _))
  | type :: next :: types, _ => by
    intro rest
    have others := reads_typesTokens (next :: types) (List.cons_ne_nil _ _) rest
    have ends (rest : List Token) : EndsPhraseType (.mark .comma :: rest) := trivial
    rw [typesTokens, typesTokens, joined, typePhrases, List.append_assoc, ← typesTokens]
    · exact Settles.step (fun _ => rfl)
        ((reads_typeTokens type _ (ends _)).bind (others.bind (Settles.const _)))
    · exact List.cons_ne_nil _ _

end

/-! ## Reading expressions -/

/-- What the reader does behind the tokens it does behind the sequence: a target is read in this sense
if all that can follow it is. -/
def ReadsSequence (tokens : List Token) (s : Sequence) : Prop :=
  ∀ before rest result, Settles (readBehind · (s.behind before) rest) result →
    Settles (readSequence · before (tokens ++ rest)) result

/-- An operand can begin with the tokens, which are then read as the phrase. -/
def ReadsPrimary (tokens : List Token) (phrase : Phrase) : Prop :=
  ∀ rest, Settles (readPrimary · (tokens ++ rest)) (phrase, rest)

/-- The tokens are read as arguments up to the parenthesis behind them. -/
def ReadsArgumentPhrases (tokens : List Token) (phrases : List Phrase) : Prop :=
  ∀ rest, Settles (phraseArguments · (tokens ++ .mark .closing :: rest)) (phrases, rest)

/-- What can come behind an expression. -/
def EndsSequence : List Token → Prop
  | [] | .mark .comma :: _ | .mark .closing :: _ => True
  | _ => False

section

variable {tokens tokens' : List Token} {s s' : Sequence} {phrase : Phrase}

/-- No operand begins with a minus: the minus before an operand is none of it. -/
theorem ReadsPrimary.ne_minus (reads : ReadsPrimary tokens phrase) (rest others : List Token) :
    tokens ++ rest ≠ .mark .minus :: others := by
  intro same
  obtain ⟨bound, enough⟩ := reads rest
  have read : readPrimary (bound + 1) (tokens ++ rest) = some (phrase, rest) :=
    enough (bound + 1) (Nat.le_succ bound)
  rw [same] at read
  cases read

theorem ReadsPrimary.sequence (reads : ReadsPrimary tokens phrase) :
    ReadsSequence tokens (.single phrase) := by
  intro before rest result behind
  refine Settles.step (fun fuel => by rw [readSequence]; exact reads.ne_minus rest) ?_
  exact (reads rest).bind behind

theorem ReadsPrimary.negated (reads : ReadsPrimary tokens phrase) :
    ReadsSequence (.mark .minus :: tokens) ⟨[], true, phrase⟩ := by
  intro before rest result behind
  exact Settles.step (fun _ => rfl) ((reads rest).bind behind)

theorem settles_noSuffix {rest : List Token} (ends : EndsSequence rest) :
    Settles (readBehind · s rest) (s, rest) := by
  refine Settles.step (fun fuel => ?_) (Settles.const _)
  unfold EndsSequence at ends
  split at ends
  · rfl
  · rfl
  · rfl
  · cases ends

/-- On its own, the sequence is what the tokens are read as. -/
theorem ReadsSequence.whole (reads : ReadsSequence tokens s) {rest : List Token}
    (ends : EndsSequence rest) : Settles (readSequence · [] (tokens ++ rest)) (s, rest) := by
  have same : s.behind [] = s := by rw [Sequence.behind, List.append_nil]
  refine reads [] rest _ ?_
  rw [same]
  exact settles_noSuffix ends

theorem readSequence_closing (fuel : Nat) (before : List (Phrase × Operator)) (rest : List Token) :
    readSequence fuel before (.mark .closing :: rest) = none := by
  match fuel with
  | 0 | 1 => rfl
  | fuel + 2 => rfl

/-- No expression begins with a closing parenthesis. -/
theorem ReadsSequence.ne_closing (reads : ReadsSequence tokens s) {rest : List Token}
    (ends : EndsSequence rest) (others : List Token) :
    tokens ++ rest ≠ .mark .closing :: others := by
  intro same
  obtain ⟨bound, enough⟩ := reads.whole ends
  have read : readSequence bound [] (tokens ++ rest) = some (s, rest) := enough bound le_rfl
  rw [same, readSequence_closing] at read
  cases read

theorem readsPrimary_word {text : String} (notNew : text ≠ "new") :
    ReadsPrimary [.word text] (.word text) :=
  fun _ => Settles.step (fun fuel => by
    rw [List.cons_append, readPrimary, if_neg notNew]; rfl) (Settles.const _)

theorem ReadsSequence.parenthesised (reads : ReadsSequence tokens s) :
    ReadsPrimary (.mark .opening :: (tokens ++ [.mark .closing])) s.phrase := by
  intro rest
  have ends : EndsSequence (.mark .closing :: rest) := trivial
  rw [List.cons_append, List.append_assoc]
  exact Settles.step (fun _ => rfl) ((reads.whole ends).bind (Settles.const _))

theorem ReadsSequence.access (reads : ReadsSequence tokens s) (name : String) :
    ReadsSequence (tokens ++ [.mark .dot, .word name]) (s.follow (.access · name)) := by
  intro before rest result behind
  rw [List.append_assoc]
  exact reads before _ result (Settles.step (fun _ => rfl) behind)

theorem ReadsSequence.call (reads : ReadsSequence tokens s) {inside : List Token}
    {phrases : List Phrase} (arguments : ReadsArgumentPhrases inside phrases) :
    ReadsSequence (tokens ++ .mark .opening :: (inside ++ [.mark .closing]))
      (s.follow (.call · phrases)) := by
  intro before rest result behind
  simp only [List.append_assoc, List.cons_append, List.nil_append]
  exact reads before _ result (Settles.step (fun _ => rfl) ((arguments rest).bind behind))

theorem ReadsSequence.generic (reads : ReadsSequence tokens s) {inside : List Token}
    {types : List Phrase} (arguments : ReadsTypes inside types) :
    ReadsSequence (tokens ++ .mark .less :: (inside ++ [.mark .greater]))
      (s.follow (.generic · types)) := by
  intro before rest result behind
  simp only [List.append_assoc, List.cons_append, List.nil_append]
  exact reads before _ result (Settles.step (fun _ => rfl) ((arguments rest).bind behind))

/-- Behind an operator the reader goes on with the operands before it in mind. -/
theorem ReadsSequence.operator (reads : ReadsSequence tokens s) (sign : Operator)
    (reads' : ReadsSequence tokens' s') :
    ReadsSequence (tokens ++ .operator sign :: tokens')
      (s'.behind ((s.operand, sign) :: s.before)) := by
  intro before rest result behind
  have same : (s'.behind ((s.operand, sign) :: s.before)).behind before =
      s'.behind ((s.operand, sign) :: (s.before ++ before)) := by
    simp [Sequence.behind]
  rw [same] at behind
  rw [List.append_assoc, List.cons_append]
  exact reads before _ result (Settles.step (fun _ => rfl) (reads' _ rest result behind))

theorem readsArgumentPhrases_nil : ReadsArgumentPhrases [] [] :=
  fun _ => Settles.step (fun _ => rfl) (Settles.const _)

theorem ReadsSequence.argument (reads : ReadsSequence tokens s) :
    ReadsArgumentPhrases tokens [s.phrase] := by
  intro rest
  have ends : EndsSequence (.mark .closing :: rest) := trivial
  refine Settles.step (fun fuel => by rw [phraseArguments]; exact reads.ne_closing ends) ?_
  exact (reads.whole ends).bind (Settles.const _)

theorem ReadsSequence.arguments (reads : ReadsSequence tokens s) {phrases : List Phrase}
    (others : ReadsArgumentPhrases tokens' phrases) :
    ReadsArgumentPhrases (tokens ++ .mark .comma :: tokens') (s.phrase :: phrases) := by
  intro rest
  have ends (rest : List Token) : EndsSequence (.mark .comma :: rest) := trivial
  rw [List.append_assoc, List.cons_append]
  refine Settles.step (fun fuel => by rw [phraseArguments]; exact reads.ne_closing (ends _)) ?_
  exact (reads.whole (ends _)).bind ((others rest).bind (Settles.const _))

end

theorem reads_nameTokens {name : String} (parts : ∀ part ∈ dottedParts name, part ≠ "new") :
    ReadsSequence (nameTokens name) (.single (namePhrase name)) := by
  obtain ⟨part, others, split⟩ := List.exists_cons_of_ne_nil (dottedParts_ne_nil name)
  have behindDots : ∀ (others : List String) {tokens : List Token} {phrase : Phrase},
      ReadsSequence tokens (.single phrase) →
      ReadsSequence (tokens ++ others.flatMap fun other => [.mark .dot, .word other])
        (.single (others.foldl .access phrase)) := by
    intro others
    induction others with
    | nil => exact fun reads => by rwa [List.flatMap_nil, List.append_nil]
    | cons other rest ih =>
      intro tokens phrase reads
      rw [List.flatMap_cons, ← List.append_assoc]
      exact ih (reads.access other)
  rw [split, List.forall_mem_cons] at parts
  rw [nameTokens, namePhrase, split]
  exact behindDots others (readsPrimary_word parts.1).sequence

theorem readsSequence_typeTokens {type : TypeRef} (free : IsFreeType type) :
    ReadsSequence (typeTokens imports type) (.single (typePhrase imports type)) := by
  obtain ⟨name, arguments⟩ := type
  have names : ReadsSequence (nameTokens (csharpTypeName imports name)) _ :=
    reads_nameTokens fun part among => (isName_of_isFreeType free part among).ne_new
  rw [typeTokens, typePhrase]
  cases arguments with
  | nil =>
    simp only [List.isEmpty_nil, if_true, List.append_nil]
    exact names
  | cons type types =>
    have inside : ReadsTypes (joined (typesTokens imports (type :: types))) _ :=
      reads_typesTokens (type :: types) (List.cons_ne_nil _ _)
    simp only [List.isEmpty_cons, Bool.false_eq_true, if_false]
    exact names.generic inside

theorem readsPrimary_create {type : TypeRef} {inside : List Token} {phrases : List Phrase}
    (arguments : ReadsArgumentPhrases inside phrases) :
    ReadsPrimary (.word "new" :: (typeTokens imports type ++
      .mark .opening :: (inside ++ [.mark .closing]))) (.create (typePhrase imports type) phrases) := by
  intro rest
  simp only [List.append_assoc, List.cons_append, List.nil_append]
  refine Settles.step (fun fuel => by rw [readPrimary, if_pos rfl]) ?_
  have ends (rest : List Token) : EndsPhraseType (.mark .opening :: rest) := trivial
  refine (reads_typeTokens type _ (ends _)).bind ?_
  exact (arguments rest).bind (Settles.const _)

theorem reads_literalTokens (value : Literal) :
    ReadsSequence (literalTokens value) (literalSequence value) := by
  cases value with
  | null => exact (readsPrimary_word (by decide)).sequence
  | bool value => cases value <;> exact (readsPrimary_word (by decide)).sequence
  | text value =>
    have reads : ReadsPrimary [.quoted value] (.quoted value) :=
      fun _ => Settles.step (fun _ => rfl) (Settles.const _)
    exact reads.sequence
  | number value =>
    have reads (numeral : Numeral) : ReadsPrimary [.number numeral] (.number numeral) :=
      fun _ => Settles.step (fun _ => rfl) (Settles.const _)
    rw [literalTokens, literalSequence, numeralTokens]
    split
    · rename_i negative
      rw [negative]
      exact (reads _).negated
    · rename_i plain
      rw [Bool.not_eq_true] at plain
      have same : unsigned value.shortest.numeral = value.shortest.numeral := by
        rw [unsigned, ← plain]
      rw [plain, same]
      exact (reads _).sequence

theorem reads_operandTokens (e : Expr) {tokens : List Token} {s : Sequence}
    (reads : ReadsSequence tokens s) :
    ReadsSequence (operandTokens e tokens) (operandSequence e s) := by
  unfold operandTokens operandSequence
  split
  · exact reads.parenthesised.sequence
  · exact reads

mutual

/-- **What the tokens of an expression are read as.** -/
theorem reads_expressionTokens : ∀ e : Expr, IsSoundThrough e →
    ReadsSequence (expressionTokens imports e) (sequenceOf imports e)
  | .literal value, _ => by
    rw [expressionTokens, sequenceOf]
    exact reads_literalTokens value
  | .this, _ => by
    rw [expressionTokens, sequenceOf]
    exact (readsPrimary_word (by decide)).sequence
  | .field target name, sound => by
    rw [expressionTokens, sequenceOf]
    exact (reads_expressionTokens target sound.reached).access name
  | .property target name, sound => by
    rw [expressionTokens, sequenceOf]
    exact (reads_expressionTokens target sound.asField.reached).access name
  | .variableRef name, sound | .argumentRef name, sound => by
    have free : IsFreeName name := sound.self
    rw [expressionTokens, sequenceOf]
    exact (readsPrimary_word (ne_new_of_isFreeName free)).sequence
  | .typeName type, sound => by
    rw [expressionTokens, sequenceOf]
    exact readsSequence_typeTokens sound.self
  | .create type arguments, sound => by
    rw [expressionTokens, sequenceOf]
    exact (readsPrimary_create (reads_expressionsTokens arguments sound.created)).sequence
  | .invoke target method arguments, sound => by
    obtain ⟨inner, inner'⟩ := sound.invoked
    have reads := ((reads_expressionTokens target inner).access method).call
      (reads_expressionsTokens arguments inner')
    rw [List.append_assoc] at reads
    rw [expressionTokens, sequenceOf]
    exact reads
  | .binary left operator right, sound => by
    obtain ⟨inner, inner'⟩ := sound.operands
    rw [expressionTokens, sequenceOf]
    exact (reads_operandTokens left (reads_expressionTokens left inner)).operator _
      (reads_operandTokens right (reads_expressionTokens right inner'))
  | .foreign _, sound => sound.self.elim

theorem reads_expressionsTokens : ∀ es : List Expr, (∀ part ∈ exprParts es, IsSound part) →
    ReadsArgumentPhrases (joined (expressionsTokens imports es)) (phrasesOf imports es)
  | [], _ => readsArgumentPhrases_nil
  | [e], sound => by
    have reads := reads_expressionTokens e
      fun part inside => sound part (List.mem_append_left _ inside)
    rw [expressionsTokens, expressionsTokens, joined, phrasesOf, phrasesOf]
    exact reads.argument
  | e :: next :: es, sound => by
    have first := reads_expressionTokens e
      fun part inside => sound part (List.mem_append_left _ inside)
    have others := reads_expressionsTokens (next :: es)
      fun part inside => sound part (List.mem_append_right _ inside)
    rw [expressionsTokens, expressionsTokens, joined, phrasesOf, ← expressionsTokens]
    · exact first.arguments others
    · exact List.cons_ne_nil _ _

end

/-- **What the text of an expression is read as.** -/
theorem readsAs_expressionText {e : Expr} (sound : IsSoundThrough e) :
    ReadsAs (expressionText imports e) (sequenceOf imports e) := by
  have reads : ReadsSequence (expressionTokens imports e) _ := reads_expressionTokens e sound
  have ends : EndsSequence [] := trivial
  have read := reads.whole ends
  rw [List.append_nil] at read
  exact ⟨expressionTokens imports e, lexes_expressionText sound, read⟩

/-- It is read as nothing else. -/
theorem readsAs_expressionText_iff {e : Expr} (sound : IsSoundThrough e) {s : Sequence} :
    ReadsAs (expressionText imports e) s ↔ s = sequenceOf imports e := by
  refine ⟨fun read => read.unique (readsAs_expressionText sound), ?_⟩
  rintro rfl
  exact readsAs_expressionText sound

end ServiceWriter.CSharp

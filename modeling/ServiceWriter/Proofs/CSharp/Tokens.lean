import ServiceWriter.Proofs.CSharp.Reading
import ServiceWriter.Proofs.Walk.Parts

/-!
# C# tokens

The tokens of a C# expression: words, numbers without a sign, string literals, operators and marks.
A minus is a mark of its own. A text is lexed from left to right, each token as long as it can be,
and blanks are skipped (`lex`).

Each token that the emitter writes has its blanks with it (`Token.written`). Tokens that fit together
are lexed from what is written for them (`settles_lex`), and those of an expression do fit together,
whatever stands behind it that can stand behind an expression.
-/

set_option autoImplicit false

namespace ServiceWriter.CSharp

open Text

/-! ## Tokens -/

/-- A mark of C#. -/
inductive Mark where
  | minus
  | dot
  | comma
  | opening
  | closing
  | less
  | greater
  deriving DecidableEq, Repr

/-- The character of a mark. -/
def Mark.char : Mark → Char
  | .minus => '-'
  | .dot => '.'
  | .comma => ','
  | .opening => '('
  | .closing => ')'
  | .less => '<'
  | .greater => '>'

/-- A token of C#. Of the two equalities there is one. -/
inductive Token where
  | word (text : String)
  | number (numeral : Numeral)
  | quoted (value : String)
  | operator (kind : Operator)
  | mark (kind : Mark)

/-- The characters of a token. -/
def Token.chars : Token → List Char
  | .word text => text.toList
  | .number numeral => numeral.chars
  | .quoted value => (quote value).toList
  | .operator kind => (operatorSign kind).toList
  | .mark kind => [kind.char]

/-! ## Lexing -/

/-- The mark that a character is. -/
def markOf : Char → Option Mark
  | '-' => some .minus
  | '.' => some .dot
  | ',' => some .comma
  | '(' => some .opening
  | ')' => some .closing
  | '<' => some .less
  | '>' => some .greater
  | _ => none

/-- Takes an operator off the front. -/
def lexOperator : List Char → Option (Token × List Char)
  | '=' :: '=' :: rest => some (.operator .identityEquality, rest)
  | '!' :: '=' :: rest => some (.operator .identityInequality, rest)
  | '&' :: '&' :: rest => some (.operator .booleanAnd, rest)
  | '|' :: '|' :: rest => some (.operator .booleanOr, rest)
  | _ => none

/-- Takes a token off the front of a text that begins with no blank. -/
def lexToken (text : List Char) : Option (Token × List Char) :=
  match text with
  | [] => none
  | c :: rest =>
    match markOf c with
    | some mark => some (.mark mark, rest)
    | none =>
      if c = '"' then (readInside rest).map fun (value, rest) => (.quoted (String.ofList value), rest)
      else if c.isDigit then some (.number (Numeral.read text).1, (Numeral.read text).2)
      else if isIdentifierStart c then
        some (.word (String.ofList (text.takeWhile isIdentifierPart)),
          text.dropWhile isIdentifierPart)
      else lexOperator text

/-- The tokens of a text. -/
def lex : Nat → List Char → Option (List Token)
  | 0, _ => none
  | _ + 1, [] => some []
  | fuel + 1, c :: rest =>
    if c = ' ' then lex fuel rest
    else (lexToken (c :: rest)).bind fun (token, rest) =>
      (lex fuel rest).bind fun tokens => some (token :: tokens)

/-! ## Writing -/

/-- Whether a blank is written before a token. -/
def Token.isSpacedBefore : Token → Bool
  | .operator _ => true
  | _ => false

/-- Whether a blank is written after a token. -/
def Token.isSpacedAfter : Token → Bool
  | .operator _ | .mark .comma => true
  | .word text => text = "new"
  | _ => false

/-- A blank, or nothing. -/
def blankIf (isSpaced : Bool) : List Char := if isSpaced then [' '] else []

/-- A token as it is written, with its blanks. -/
def Token.written (token : Token) : List Char :=
  blankIf token.isSpacedBefore ++ (token.chars ++ blankIf token.isSpacedAfter)

/-- Tokens as they are written. -/
def written (tokens : List Token) : List Char := tokens.flatMap Token.written

theorem written_append (tokens tokens' : List Token) :
    written (tokens ++ tokens') = written tokens ++ written tokens' :=
  List.flatMap_append

theorem written_cons (token : Token) (tokens : List Token) :
    written (token :: tokens) = token.written ++ written tokens :=
  rfl

/-! ## Tokens that fit together -/

/-- What stands behind a token does not go on with it. -/
def Token.Fits (rest : List Char) : Token → Prop
  | .word text => isIdentifier text = true ∧ Stops isIdentifierPart rest
  | .number numeral =>
    numeral.IsWritten ∧ numeral.negative = false ∧ Numeral.endsNumber rest = true
  | .operator kind => normalOperator kind = kind
  | .quoted _ | .mark _ => True

/-- Each token fits before what is written behind it. -/
def FitTogether : List Token → Prop
  | [] => True
  | token :: rest => token.Fits (blankIf token.isSpacedAfter ++ written rest) ∧ FitTogether rest

theorem markOf_char (mark : Mark) : markOf mark.char = some mark := by
  cases mark <;> rfl

theorem markOf_eq_none {c : Char} (apart : ∀ mark : Mark, c ≠ mark.char) : markOf c = none := by
  unfold markOf
  split
  · exact absurd rfl (apart .minus)
  · exact absurd rfl (apart .dot)
  · exact absurd rfl (apart .comma)
  · exact absurd rfl (apart .opening)
  · exact absurd rfl (apart .closing)
  · exact absurd rfl (apart .less)
  · exact absurd rfl (apart .greater)
  · rfl

theorem markOf_of_isIdentifierStart {c : Char} (start : isIdentifierStart c = true) :
    markOf c = none := by
  refine markOf_eq_none fun mark same => ?_
  subst same
  cases mark <;> cases start

theorem markOf_of_isDigit {c : Char} (digit : c.isDigit = true) : markOf c = none := by
  refine markOf_eq_none fun mark same => ?_
  subst same
  cases mark <;> cases digit

theorem lexToken_word {text : String} {rest : List Char} (valid : isIdentifier text = true)
    (stops : Stops isIdentifierPart rest) :
    lexToken (text.toList ++ rest) = some (.word text, rest) := by
  have parts := isIdentifierPart_of_mem valid
  have taken := takeWhile_append_stops parts stops
  have dropped := dropWhile_append_stops parts stops
  obtain ⟨c, others, chars, start⟩ := exists_head valid
  have notQuote : c ≠ '"' := by
    rintro rfl
    cases start
  have whole : String.ofList (c :: others) = text := by
    rw [← chars, String.ofList_toList]
  rw [chars, List.cons_append] at taken dropped ⊢
  rw [lexToken]
  simp only [markOf_of_isIdentifierStart start, if_neg notQuote,
    not_isDigit_of_isIdentifierStart start, if_pos start, taken, dropped, whole,
    Bool.false_eq_true, if_false]

theorem lexToken_number {numeral : Numeral} {rest : List Char} (isWritten : numeral.IsWritten)
    (plain : numeral.negative = false) (ends : Numeral.endsNumber rest = true) :
    lexToken (numeral.chars ++ rest) = some (.number numeral, rest) := by
  have back := Numeral.read_chars_append rest isWritten ends
  obtain ⟨c, others, whole⟩ := List.exists_cons_of_ne_nil isWritten.whole_ne_nil
  have digit : c.isDigit = true := isWritten.whole_digits c (whole ▸ List.mem_cons_self)
  have notQuote : c ≠ '"' := by
    rintro rfl
    cases digit
  obtain ⟨tail, begins⟩ : ∃ tail, numeral.chars ++ rest = c :: tail := by
    rw [Numeral.chars, plain, whole]
    exact ⟨_, rfl⟩
  rw [begins] at back ⊢
  rw [lexToken]
  simp only [markOf_of_isDigit digit, if_neg notQuote, digit, if_true, back]

/-- **A token is taken off the front** of a text that does not go on with it. -/
theorem lexToken_chars {token : Token} {rest : List Char} (fits : token.Fits rest) :
    lexToken (token.chars ++ rest) = some (token, rest) := by
  cases token with
  | word text => exact lexToken_word fits.1 fits.2
  | number numeral => exact lexToken_number fits.1 fits.2.1 fits.2.2
  | quoted value =>
    have chars : (quote value).toList ++ rest =
        '"' :: (value.toList.flatMap escapeChar ++ '"' :: rest) := by
      simp [quote, quoteChars]
    have plain : markOf '"' = none := rfl
    rw [Token.chars, chars, lexToken]
    simp only [plain, if_true, readInside_append, Option.map_some, String.ofList_toList]
  | operator kind =>
    cases kind with
    | valueEquality => cases fits
    | _ => rfl
  | mark kind =>
    rw [Token.chars, List.cons_append, List.nil_append, lexToken]
    simp only [markOf_char]

/-- No token begins with a blank. -/
theorem exists_head_token {token : Token} {rest : List Char} (fits : token.Fits rest) :
    ∃ c others, token.chars = c :: others ∧ c ≠ ' ' := by
  cases token with
  | word text =>
    obtain ⟨c, others, chars, start⟩ := exists_head fits.1
    refine ⟨c, others, chars, ?_⟩
    rintro rfl
    cases start
  | number numeral =>
    obtain ⟨c, others, chars, begins⟩ := exists_head_chars fits.1
    refine ⟨c, others, chars, ?_⟩
    rintro rfl
    cases begins
  | quoted value =>
    have chars : (quote value).toList = '"' :: (value.toList.flatMap escapeChar ++ ['"']) := by
      simp [quote, quoteChars]
    exact ⟨'"', _, chars, by decide⟩
  | operator operator => cases operator <;> exact ⟨_, _, rfl, by decide⟩
  | mark mark => cases mark <;> exact ⟨_, _, rfl, by decide⟩

theorem settles_blankIf (isSpaced : Bool) {rest : List Char} {tokens : List Token}
    (settled : Settles (lex · rest) tokens) :
    Settles (lex · (blankIf isSpaced ++ rest)) tokens := by
  cases isSpaced with
  | false => exact settled
  | true => exact Settles.step (fun fuel => by rw [blankIf, if_pos rfl]; rfl) settled

/-- **Tokens that fit together are lexed** from what is written for them. -/
theorem settles_lex : ∀ {tokens : List Token}, FitTogether tokens →
    Settles (lex · (written tokens)) tokens
  | [], _ => Settles.step (fun _ => rfl) (Settles.const _)
  | token :: rest, fits => by
    obtain ⟨here, later⟩ := fits
    obtain ⟨c, others, chars, notBlank⟩ := exists_head_token here
    have taken := lexToken_chars here
    rw [written_cons, Token.written, List.append_assoc, List.append_assoc]
    refine settles_blankIf _ ?_
    rw [chars, List.cons_append] at taken ⊢
    refine Settles.step (fun fuel => by rw [lex, if_neg notBlank, taken, Option.bind_some]) ?_
    exact (settles_blankIf _ (settles_lex later)).bind (Settles.const _)

end ServiceWriter.CSharp

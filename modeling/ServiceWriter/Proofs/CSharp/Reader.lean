import ServiceWriter.Proofs.CSharp.Normal
import ServiceWriter.Proofs.CSharp.Quoting

/-!
# A reader of C# expressions

The grammar that the emitter of C# writes in, as a reader by recursive descent: an expression is an
operand or two with an operator between them; an operand is an atom with suffixes behind it, each a
member access, a call or a list of type arguments. The reader looks one character ahead and reads
normal forms.

It runs on fuel. What it does for all large amounts of fuel is settled (`Settles`), and only that is
spoken of later on: a step of the reader settles what its parts settle.
-/

set_option autoImplicit false

namespace ServiceWriter.CSharp

open Text

/-! ## Settling -/

/-- With enough fuel the function gives the value. -/
def Settles {α : Type} (f : Nat → Option α) (v : α) : Prop :=
  ∃ bound, ∀ fuel, bound ≤ fuel → f fuel = some v

namespace Settles

variable {α β : Type} {f : Nat → Option α} {v w : α}

theorem unique (first : Settles f v) (second : Settles f w) : v = w := by
  obtain ⟨bound, settled⟩ := first
  obtain ⟨bound', settled'⟩ := second
  have same := (settled (max bound bound') (le_max_left _ _)).symm.trans
    (settled' (max bound bound') (le_max_right _ _))
  exact Option.some.inj same

theorem const (v : α) : Settles (fun _ => some v) v := ⟨0, fun _ _ => rfl⟩

/-- A step that uses up fuel. -/
theorem step {g : Nat → Option α} (next : ∀ fuel, f (fuel + 1) = g fuel) (settled : Settles g v) :
    Settles f v := by
  obtain ⟨bound, enough⟩ := settled
  refine ⟨bound + 1, fun fuel large => ?_⟩
  obtain ⟨fuel, rfl⟩ : ∃ n, fuel = n + 1 := ⟨fuel - 1, by omega⟩
  rw [next]
  exact enough fuel (by omega)

/-- One function after another. -/
theorem bind {g : α → Nat → Option β} {w : β} (first : Settles f v) (second : Settles (g v) w) :
    Settles (fun fuel => (f fuel).bind fun x => g x fuel) w := by
  obtain ⟨bound, enough⟩ := first
  obtain ⟨bound', enough'⟩ := second
  refine ⟨max bound bound', fun fuel large => ?_⟩
  have first := enough fuel (le_trans (le_max_left _ _) large)
  have second := enough' fuel (le_trans (le_max_right _ _) large)
  simp only [first, Option.bind_some, second]

end Settles

/-! ## Characters -/

/-- Reads one character. -/
def expect (c : Char) : List Char → Option (List Char)
  | [] => none
  | d :: rest => if d = c then some rest else none

theorem expect_self (c : Char) (rest : List Char) : expect c (c :: rest) = some rest :=
  if_pos rfl

/-! ## Types -/

/-- A character of a dotted name. -/
def isDottedPart (c : Char) : Bool := isIdentifierPart c || c == '.'

mutual

/-- Reads a type. -/
def readType : Nat → List Char → Option (TypeRef × List Char)
  | 0, _ => none
  | fuel + 1, text =>
    let name := String.ofList (text.takeWhile isDottedPart)
    match text.dropWhile isDottedPart with
    | '<' :: rest => (readTypes fuel rest).bind fun (types, rest) => some (.mk name types, rest)
    | rest => some (.mk name [], rest)

/-- Reads types up to the closing bracket. -/
def readTypes : Nat → List Char → Option (List TypeRef × List Char)
  | 0, _ => none
  | fuel + 1, text => (readType fuel text).bind fun (type, rest) =>
    match rest with
    | ',' :: ' ' :: rest => (readTypes fuel rest).bind fun (types, rest) => some (type :: types, rest)
    | '>' :: rest => some ([type], rest)
    | _ => none

end

/-! ## Expressions -/

/-- Reads the sign of an operator and the blank behind it. -/
def readOperator : List Char → Option (Operator × List Char)
  | '=' :: '=' :: ' ' :: rest => some (.identityEquality, rest)
  | '!' :: '=' :: ' ' :: rest => some (.identityInequality, rest)
  | '&' :: '&' :: ' ' :: rest => some (.booleanAnd, rest)
  | '|' :: '|' :: ' ' :: rest => some (.booleanOr, rest)
  | _ => none

/-- What a word stands for on its own. -/
def wordExpr (word : String) : Expr :=
  if word = "null" then .literal .null
  else if word = "true" then .literal (.bool true)
  else if word = "false" then .literal (.bool false)
  else if word = "this" then .this
  else .variableRef word

section

variable (number : Numeral → Binary64)

mutual

/-- Reads an expression. -/
def readExpression : Nat → List Char → Option (Expr × List Char)
  | 0, _ => none
  | fuel + 1, text => (readOperand fuel text).bind fun (left, rest) =>
    match rest with
    | ' ' :: rest => (readOperator rest).bind fun (operator, rest) =>
      (readOperand fuel rest).bind fun (right, rest) => some (.binary left operator right, rest)
    | rest => some (left, rest)

/-- Reads an atom and the suffixes behind it. -/
def readOperand : Nat → List Char → Option (Expr × List Char)
  | 0, _ => none
  | fuel + 1, text => (readAtom fuel text).bind fun (atom, rest) => readSuffixes fuel atom rest

/-- Reads what a suffix can stand behind. -/
def readAtom : Nat → List Char → Option (Expr × List Char)
  | 0, _ => none
  | _ + 1, [] => none
  | fuel + 1, c :: text =>
    if c = '(' then
      (readExpression fuel text).bind fun (inner, rest) =>
        (expect ')' rest).bind fun rest => some (inner, rest)
    else if c = '"' then
      (readInside text).bind fun (value, rest) => some (.literal (.text (String.ofList value)), rest)
    else if c = '-' || c.isDigit then
      let (numeral, rest) := Numeral.read (c :: text)
      some (.literal (.number (number numeral)), rest)
    else if isIdentifierStart c then
      readWord fuel (String.ofList ((c :: text).takeWhile isIdentifierPart))
        ((c :: text).dropWhile isIdentifierPart)
    else none

/-- Reads on behind a word. -/
def readWord : Nat → String → List Char → Option (Expr × List Char)
  | 0, _, _ => none
  | fuel + 1, word, rest =>
    if word = "new" then
      (expect ' ' rest).bind fun rest => (readType fuel rest).bind fun (type, rest) =>
        (expect '(' rest).bind fun rest => (readArguments fuel rest).bind fun (arguments, rest) =>
          some (.create type arguments, rest)
    else
      some (wordExpr word, rest)

/-- Reads suffixes behind an expression, as many as there are. -/
def readSuffixes : Nat → Expr → List Char → Option (Expr × List Char)
  | 0, _, _ => none
  | fuel + 1, target, '.' :: text =>
    let name := String.ofList (text.takeWhile isIdentifierPart)
    match text.dropWhile isIdentifierPart with
    | '(' :: rest => (readArguments fuel rest).bind fun (arguments, rest) =>
      readSuffixes fuel (.invoke target name arguments) rest
    | rest => readSuffixes fuel (.field target name) rest
  | fuel + 1, target, '<' :: text => (readTypes fuel text).bind fun (types, rest) =>
    readSuffixes fuel (.typeName (.mk (spelled target) types)) rest
  | _ + 1, target, rest => some (target, rest)

/-- Reads arguments up to the closing parenthesis. -/
def readArguments : Nat → List Char → Option (List Expr × List Char)
  | 0, _ => none
  | _ + 1, ')' :: rest => some ([], rest)
  | fuel + 1, text => (readExpression fuel text).bind fun (e, rest) =>
    match rest with
    | ',' :: ' ' :: rest => (readArguments fuel rest).bind fun (es, rest) => some (e :: es, rest)
    | ')' :: rest => some ([e], rest)
    | _ => none

end

end

end ServiceWriter.CSharp

import ServiceWriter.Proofs.CSharp.Quoting

/-!
# Scanning string literals

A scanner goes through a text one character at a time. It takes the opening quote, decodes the escapes
that literals are written with, refuses all others, and stops at the first quote that is not escaped.
From the literal of a string, with anything behind it, it takes just the literal and finds the string
(`scan_quoteChars`): after each character that was written, escaped or not, it is between the quotes
again and has found that character (`scanFrom_escapeChar`). Therefore no string ends its literal early
or lets it run on (`literal_scanned`).
-/

set_option autoImplicit false

namespace ServiceWriter.CSharp

/-! ## The scanner -/

/-- The characters that make an escape with a backslash before them. -/
def escapeLetters : List Char := ['\\', '"', 'n', 'r', 't', '0']

/-- Where a scanner is: before the opening quote, between the quotes, or there behind a backslash. -/
inductive ScanState where
  | outside
  | inside
  | escaped

/-- How a scan ends. -/
inductive Scanned where
  /-- With the closing quote: what was taken, quotes included, what it denotes, and what is left. -/
  | literal (taken value rest : List Char)
  /-- Where there is no opening quote. -/
  | noQuote
  /-- Behind a backslash, at a character that makes no escape. -/
  | unknownEscape (letter : Char)
  /-- With the text. -/
  | unfinished

/-- Scans on from a state, after some characters have been taken and found to denote others. -/
def scanFrom (state : ScanState) (taken value : List Char) : List Char → Scanned
  | [] => .unfinished
  | c :: rest =>
    match state with
    | .outside => if c = '"' then scanFrom .inside (taken ++ [c]) value rest else .noQuote
    | .inside =>
      if c = '"' then .literal (taken ++ [c]) value rest
      else if c = '\\' then scanFrom .escaped (taken ++ [c]) value rest
      else scanFrom .inside (taken ++ [c]) (value ++ [c]) rest
    | .escaped =>
      if c ∈ escapeLetters then scanFrom .inside (taken ++ [c]) (value ++ [unescape c]) rest
      else .unknownEscape c

/-- Scans a text that starts with a literal. -/
def scan (text : List Char) : Scanned := scanFrom .outside [] [] text

/-- Whether a scan found a literal. -/
def Scanned.isLiteral : Scanned → Bool
  | .literal .. => true
  | _ => false

/-! ## Steps -/

section

variable {taken value : List Char} {c : Char}

theorem scanFrom_plain (rest : List Char) (quote : c ≠ '"') (backslash : c ≠ '\\') :
    scanFrom .inside taken value (c :: rest) =
      scanFrom .inside (taken ++ [c]) (value ++ [c]) rest := by
  rw [scanFrom, if_neg quote, if_neg backslash]

theorem scanFrom_escape (rest : List Char) (letter : c ∈ escapeLetters) :
    scanFrom .inside taken value ('\\' :: c :: rest) =
      scanFrom .inside (taken ++ ['\\', c]) (value ++ [unescape c]) rest := by
  rw [scanFrom, if_neg (by decide), if_pos rfl, scanFrom, if_pos letter, List.append_assoc]
  rfl

/-- **A character that was written** is found, and the scanner is between the quotes again. -/
theorem scanFrom_escapeChar (c : Char) (rest : List Char) :
    scanFrom .inside taken value (escapeChar c ++ rest) =
      scanFrom .inside (taken ++ escapeChar c) (value ++ [c]) rest := by
  unfold escapeChar
  split
  case h_7 backslash quote _ _ _ _ => exact scanFrom_plain rest quote backslash
  all_goals exact scanFrom_escape rest (by decide)

/-- So is a string that was written. -/
theorem scanFrom_escapeChars (text rest : List Char) :
    scanFrom .inside taken value (text.flatMap escapeChar ++ rest) =
      scanFrom .inside (taken ++ text.flatMap escapeChar) (value ++ text) rest := by
  induction text generalizing taken value with
  | nil => simp
  | cons c text ih =>
    rw [List.flatMap_cons, List.append_assoc, scanFrom_escapeChar, ih]
    simp only [List.append_assoc, List.singleton_append]

end

/-- **From a literal with anything behind it** the scanner takes the literal and finds the string. -/
theorem scan_quoteChars (text rest : List Char) :
    scan (quoteChars text ++ rest) = .literal (quoteChars text) text rest := by
  simp only [scan, quoteChars, List.cons_append, List.append_assoc]
  rw [scanFrom, if_pos rfl, scanFrom_escapeChars, scanFrom, if_pos rfl]
  rfl

/-- A literal that is found is found whatever comes behind. -/
theorem scanFrom_append {state : ScanState} {taken value text taken' value' rest : List Char}
    (more : List Char) (found : scanFrom state taken value text = .literal taken' value' rest) :
    scanFrom state taken value (text ++ more) = .literal taken' value' (rest ++ more) := by
  induction text generalizing state taken value with
  | nil => cases found
  | cons c text ih =>
    rw [List.cons_append]
    cases state with
    | outside =>
      rw [scanFrom] at found ⊢
      split at found
      · next quote => rw [if_pos quote]; exact ih found
      · cases found
    | inside =>
      rw [scanFrom] at found ⊢
      split at found
      · next quote =>
        rw [if_pos quote]
        cases found
        rfl
      · next quote =>
        rw [if_neg quote]
        split at found
        · next backslash => rw [if_pos backslash]; exact ih found
        · next backslash => rw [if_neg backslash]; exact ih found
    | escaped =>
      rw [scanFrom] at found ⊢
      split at found
      · next letter => rw [if_pos letter]; exact ih found
      · cases found

/-- Of the start of a literal the scanner does not see the end, unless it is all of it. -/
theorem isLiteral_scan_take_iff (text : List Char) (n : Nat) :
    (scan ((quoteChars text).take n)).isLiteral = true ↔ (quoteChars text).length ≤ n := by
  have whole := scan_quoteChars text []
  rw [List.append_nil] at whole
  constructor
  · intro early
    cases found : scan ((quoteChars text).take n) with
    | literal taken value rest =>
      have later := scanFrom_append ((quoteChars text).drop n) found
      rw [List.take_append_drop] at later
      have nothing := (Scanned.literal.inj (later.symm.trans whole)).2.2
      exact List.drop_eq_nil_iff.mp (List.append_eq_nil_iff.mp nothing).2
    | noQuote | unknownEscape | unfinished => simp [found, Scanned.isLiteral] at early
  · intro all
    rw [List.take_of_length_le all, whole]
    rfl

/-- **A literal is undone by scanning.** From the literal of a string, with anything behind it, a
scanner takes exactly the literal, finds the string and leaves the rest; it finds no end before the
last quote. So strings with equal literals are equal, and what follows a literal belongs to no literal
of another string. -/
theorem literal_scanned (value : String) :
    (∀ rest : String, scan (quote value ++ rest).toList =
      .literal (quote value).toList value.toList rest.toList) ∧
    (∀ n, (scan ((quote value).toList.take n)).isLiteral = true ↔ (quote value).length ≤ n) ∧
    (∀ other rest rest' : String,
      quote value ++ rest = quote other ++ rest' ↔ value = other ∧ rest = rest') ∧
    ∀ other : String, quote value = quote other ↔ value = other := by
  have chars (value : String) : (quote value).toList = quoteChars value.toList := by
    rw [quote, String.toList_ofList]
  have scanned (value rest : String) : scan (quote value ++ rest).toList =
      .literal (quote value).toList value.toList rest.toList := by
    rw [String.toList_append, chars, scan_quoteChars]
  have apart (other rest rest' : String) :
      quote value ++ rest = quote other ++ rest' ↔ value = other ∧ rest = rest' := by
    constructor
    · intro same
      have ends := (scanned value rest).symm.trans (same ▸ scanned other rest')
      obtain ⟨_, values, rests⟩ := Scanned.literal.inj ends
      exact ⟨String.toList_injective values, String.toList_injective rests⟩
    · rintro ⟨rfl, rfl⟩
      rfl
  refine ⟨scanned value, fun n => ?_, apart, fun other => ?_⟩
  · rw [chars, isLiteral_scan_take_iff, ← chars, String.length_toList]
  · simpa using apart other "" ""

end ServiceWriter.CSharp

import ServiceWriter.Proofs.CSharp.Pieces
import ServiceWriter.Proofs.CSharp.TypeReferences
import ServiceWriter.Proofs.Number.Numeral

/-!
# Ends of line inside C# lines

C# knows five characters that end a line, and allows none of them raw inside a regular string
literal. Nothing that is written in a row holds one of them, except the names of types, which are
written as they are, and the string constants (`lacks_classRows`). A string literal escapes the line
feed and the carriage return and leaves the other three as they are (`mem_quote_iff`). So a line
that is written holds a character that ends a line exactly if it is one of these three and stands in
a string constant of the class (`emission_line_ends`).
-/

set_option autoImplicit false

namespace ServiceWriter

open Text

/-! ## Characters of numerals -/

/-- A numeral is written with digits, points, signs and the letter of the exponent. -/
theorem Numeral.isDigit_or_of_mem_chars {n : Numeral} (written : n.IsWritten) {c : Char}
    (inside : c ∈ n.chars) : c.isDigit = true ∨ c ∈ ['-', '+', '.', 'e'] := by
  have sign : ∀ c ∈ signChars n.negative, c = '-' := by
    cases n.negative <;> simp [signChars]
  have fraction : ∀ c ∈ fractionChars n.fraction, c = '.' ∨ c.isDigit = true := by
    intro c inside
    unfold fractionChars at inside
    split at inside
    · cases inside
    · exact (List.mem_cons.mp inside).imp id (written.fraction_digits c)
  have power : ∀ c ∈ powerChars n.power, c ∈ ['-', '+', 'e'] ∨ c.isDigit = true := by
    intro c inside
    cases given : n.power with
    | none => simp [given, powerChars] at inside
    | some power =>
      rw [given] at inside
      obtain ⟨negative, digits⟩ := power
      rcases List.mem_cons.mp inside with rfl | inside
      · exact .inl (by decide)
      rcases List.mem_cons.mp inside with rfl | inside
      · exact .inl (by cases negative <;> decide)
      · exact .inr (written.power_digits (negative, digits) given c inside)
  rw [chars, List.mem_append, List.mem_append, List.mem_append] at inside
  rcases inside with here | here | here | here
  · exact .inr (by rw [sign c here]; decide)
  · exact .inl (written.whole_digits c here)
  · rcases fraction c here with rfl | digit
    · exact .inr (by decide)
    · exact .inl digit
  · rcases power c here with among | digit
    · refine .inr ?_
      simp only [List.mem_cons, List.not_mem_nil, or_false] at among ⊢
      rcases among with rfl | rfl | rfl <;> simp
    · exact .inl digit

namespace CSharp

/-! ## Texts without a character -/

/-- The character does not stand in the text. -/
def Lacks (c : Char) (text : String) : Prop := c ∉ text.toList

namespace Lacks

variable {c : Char} {text : String}

/-- A text lacks what all its pieces lack. -/
theorem of_madeOf (made : MadeOf (Lacks c) text) : Lacks c text := by
  obtain ⟨pieces, lacks, rfl⟩ := made
  rw [Lacks, String.toList_join, List.mem_flatMap]
  rintro ⟨piece, listed, inside⟩
  exact lacks piece listed inside

end Lacks

/-- The characters that end a line of C# source. -/
def lineEnds : List Char := ['\n', '\r', '\u0085', '\u2028', '\u2029']

variable {c : Char}

/-- Ends of line are no part of names and of numbers. -/
theorem plain_of_mem_lineEnds (ends : c ∈ lineEnds) :
    isIdentifierPart c = false ∧ c.isDigit = false ∧ c ∉ ['-', '+', '.', 'e'] := by
  have all : ∀ c ∈ lineEnds,
      isIdentifierPart c = false ∧ c.isDigit = false ∧ c ∉ ['-', '+', '.', 'e'] :=
    forall_mem_of_all (by decide)
  exact all c ends

theorem lacks_name {words : ReservedWords} (ends : c ∈ lineEnds) {name : String}
    (free : IsFree words .csharp name) : Lacks c name := by
  intro inside
  have part := isIdentifierPart_of_mem free.1 c inside
  rw [(plain_of_mem_lineEnds ends).1] at part
  cases part

/-- A type is written with the characters of its name, or as a keyword. -/
theorem lacks_csharpTypeName (keywords : ∀ entry ∈ csharpKeywords, Lacks c entry.2)
    {imports : List String} {name : String} (lacks : Lacks c name) :
    Lacks c (csharpTypeName imports name) := by
  unfold csharpTypeName
  split
  · next keyword found => exact keywords _ (TypeScript.mem_of_lookup found)
  · simp only
    split
    · exact fun inside => lacks (mem_of_mem_simpleName inside)
    · exact lacks

/-! ## Constants -/

/-- **A string literal holds an end of line** exactly if the string does and it is neither the line
feed nor the carriage return. -/
theorem mem_quote_iff (ends : c ∈ lineEnds) (value : String) :
    c ∈ (quote value).toList ↔ c ∈ value.toList ∧ c ≠ '\n' ∧ c ≠ '\r' := by
  have quoteSign : c ≠ '"' := by
    rintro rfl
    exact absurd ends (by decide)
  have escaped (d : Char) : c ∈ escapeChar d ↔ c = d ∧ c ≠ '\n' ∧ c ≠ '\r' := by
    unfold escapeChar lineEnds at *
    split <;> grind
  simp only [quote, quoteChars, String.toList_ofList, List.mem_append, List.mem_cons,
    List.mem_flatMap, escaped]
  grind

/-- No other constant is written with an end of line. -/
theorem lacks_literalText (ends : c ∈ lineEnds) (value : Literal)
    (texts : ∀ text, value = .text text → Lacks c (quote text)) : Lacks c (literalText value) := by
  have words : ∀ c ∈ lineEnds, ∀ word ∈ ["null", "true", "false", "0"], c ∉ word.toList :=
    forall_mem_of_all (by decide)
  cases value with
  | null => exact words c ends _ (by decide)
  | bool value => cases value <;> exact words c ends _ (by decide)
  | text value => exact texts value rfl
  | number value =>
    rw [literalText]
    split
    · next finite =>
      rw [Binary64.text, if_pos finite, Decimal.text_eq, Lacks, String.toList_ofList]
      intro inside
      obtain ⟨_, digit, sign⟩ := plain_of_mem_lineEnds ends
      have written := Decimal.isWritten_numeral value.shortest
      rcases Numeral.isDigit_or_of_mem_chars written inside with isDigit | isSign
      · rw [digit] at isDigit
        cases isDigit
      · exact sign isSign
    · exact words c ends _ (by decide)

/-! ## Lines -/

section

variable {words : ReservedWords} {imports : List String} {d : ClassDecl}

/-- **The rows of a class** lack an end of line that its names of types and its string literals
lack. -/
theorem lacks_classRows (ends : c ∈ lineEnds) (clean : ∀ v ∈ d.visits, causeAt words v.site = none)
    (types : ∀ name ∈ d.members.flatMap memberTypeNames, Lacks c name)
    (texts : ∀ value, .literal (.text value) ∈ d.expressions → Lacks c (quote value)) :
    ∀ r ∈ classRows imports d, Lacks c r.text := by
  have admits : Admits words imports (d.members.flatMap memberTypeNames)
      (fun value => .literal value ∈ d.expressions) (Lacks c) := by
    have signs : ∀ c ∈ lineEnds, ∀ text ∈ rowSigns, c ∉ text.toList :=
      forall_mem_of_all (by decide)
    have keywords : ∀ c ∈ lineEnds, ∀ entry ∈ csharpKeywords, c ∉ entry.2.toList :=
      forall_mem_of_all (by decide)
    refine ⟨signs c ends, fun name free => lacks_name ends free, fun name used => ?_,
      fun value held => ?_⟩
    · exact lacks_csharpTypeName (keywords c ends) (types name used)
    · refine lacks_literalText ends value fun text same => texts text ?_
      exact same ▸ held
  have made := admits.classRows d clean (fun _ used => used) fun _ held => held
  exact fun r listed => .of_madeOf (made r listed)

/-- The blanks before a line are no ends of line. -/
theorem mem_line_iff (ends : c ∈ lineEnds) (base : Nat) (r : Row) :
    c ∈ (r.line base).toList ↔ c ∈ r.text.toList := by
  have blank : c ≠ ' ' := by
    rintro rfl
    exact absurd ends (by decide)
  unfold Row.line
  split
  · next empty => rw [empty]
  · simp [Layout.indentation, blank]

theorem exists_line_iff (ends : c ∈ lineEnds) (base : Nat) (rows : List Row) :
    (∃ line ∈ rows.map (Row.line base), c ∈ line.toList) ↔ ∃ r ∈ rows, c ∈ r.text.toList := by
  constructor
  · rintro ⟨line, written, inside⟩
    obtain ⟨r, listed, rfl⟩ := List.mem_map.mp written
    exact ⟨r, listed, (mem_line_iff ends base r).mp inside⟩
  · rintro ⟨r, listed, inside⟩
    exact ⟨r.line base, List.mem_map_of_mem listed, (mem_line_iff ends base r).mpr inside⟩

end

/-- **Ends of line in C# lines.** A string literal holds a raw end of line exactly if its string
does, other than the line feed and the carriage return. A class that is accepted, its names of types
being free of ends of line, is written in lines that hold no line feed and no carriage return, and
hold one of the three other ends of line exactly if a string constant of the class does. -/
theorem emission_line_ends (words : ReservedWords) :
    (∀ value : String, ∀ c ∈ lineEnds,
      (c ∈ (quote value).toList ↔ c ∈ value.toList ∧ c ≠ '\n' ∧ c ≠ '\r')) ∧
    ∀ (d : ClassDecl) (imports : List String) (emitter : CSharpEmitter) (text : String),
      ((CSharpEmitter.emitType (.ok words) d imports).run emitter).1 = .ok text →
      (∀ name ∈ d.members.flatMap memberTypeNames, ∀ c ∈ lineEnds, c ∉ name.toList) →
      ∀ c ∈ lineEnds,
        ((∃ line ∈ emittedLines words d imports emitter, c ∈ line.toList) ↔
          c ≠ '\n' ∧ c ≠ '\r' ∧
            ∃ value, .literal (.text value) ∈ d.expressions ∧ c ∈ value.toList) := by
  refine ⟨fun value c ends => mem_quote_iff ends value, ?_⟩
  intro d imports emitter text ok types c ends
  have clean := (of_emitType_eq_ok ok).1
  rw [emittedLines_eq, exists_line_iff ends]
  constructor
  · rintro ⟨r, listed, inside⟩
    -- no string constant, no end of line
    by_contra absent
    refine lacks_classRows ends clean (fun name used => types name used c ends) ?_ r listed inside
    intro value held raw
    obtain ⟨among, notFeed, notReturn⟩ := (mem_quote_iff ends value).mp raw
    exact absent ⟨notFeed, notReturn, value, held, among⟩
  · rintro ⟨notFeed, notReturn, value, held, among⟩
    obtain ⟨m, listed, here⟩ := List.mem_flatMap.mp held
    have shown := shows_classRows listed (@shows_expressions imports m _ here)
    rw [expressionText, literalText] at shown
    obtain ⟨r, listed, within⟩ := shown
    exact ⟨r, listed, within.subset ((mem_quote_iff ends value).mpr ⟨among, notFeed, notReturn⟩)⟩

/-- A class with a field that starts as the given string. -/
def labelled (label : String) : ClassDecl where
  name := "C"
  members := [
    .field {
      name := "label"
      type := .plain "System.String"
      initializer := some (.literal (.text label)) }]

theorem clean_labelled (label : String) :
    defectsOn .standard (labelled label).visits = [] := by
  have free : IsFree .standard .csharp "C" ∧ IsFree .standard .csharp "label" := by decide +kernel
  rw [defectsOn_eq_nil_iff, ClassDecl.forall_visits_iff (causeAt .standard · = none)]
  refine ⟨causeAt_binding.mpr free.1, ?_⟩
  simp [labelled, Member.sites, Field.sites, TypeRef.plain, TypeRef.sites, optionSites,
    Expr.sites, Literal.sites, causeAt_member, causeAt_type, typeSites, free]

/-- A line feed in a constant is escaped, and no line holds an end of line. -/
theorem emission_line_ends_feed :
    ((CSharpEmitter.emitType (.ok .standard) (labelled "a\nb") []).run {}).1 =
        .ok "public class C\n\x7b\n    private string label = \"a\\nb\";\n\x7d\n" ∧
      ∀ c ∈ lineEnds,
        ¬ ∃ line ∈ emittedLines .standard (labelled "a\nb") [] {}, c ∈ line.toList := by
  have performs := @performs_classDecl [] .standard (labelled "a\nb")
  have ok := text_of_clean performs {} (clean_labelled "a\nb")
  refine ⟨ok, fun c ends raw => ?_⟩
  have types : ∀ c ∈ lineEnds, ∀ name ∈ (labelled "a\nb").members.flatMap memberTypeNames,
      c ∉ name.toList := forall_mem_of_all (by decide)
  obtain ⟨notFeed, _, value, held, inside⟩ :=
    ((emission_line_ends .standard).2 (labelled "a\nb") [] {} _ ok
      (fun name used c ends => types c ends name used) c ends).mp raw
  cases List.mem_singleton.mp held
  have apart : ∀ c ∈ lineEnds, c ≠ '\n' → c ∉ "a\nb".toList := forall_mem_of_all (by decide)
  exact apart c ends notFeed inside

/-- The three other ends of line are written raw. -/
theorem emission_line_ends_raw :
    ((CSharpEmitter.emitType (.ok .standard) (labelled "a\u0085b\u2028c\u2029d") []).run {}).1 =
        .ok ("public class C\n\x7b\n    private string label = " ++
          "\"a\u0085b\u2028c\u2029d\";\n\x7d\n") ∧
      (∀ name ∈ (labelled "a\u0085b\u2028c\u2029d").members.flatMap memberTypeNames,
        ∀ c ∈ lineEnds, c ∉ name.toList) ∧
      ∀ c ∈ ['\u0085', '\u2028', '\u2029'], c ∈ (quote "a\u0085b\u2028c\u2029d").toList := by
  have types : ∀ c ∈ lineEnds,
      ∀ name ∈ (labelled "a\u0085b\u2028c\u2029d").members.flatMap memberTypeNames,
        c ∉ name.toList := forall_mem_of_all (by decide)
  refine ⟨?_, fun name used c ends => types c ends name used, forall_mem_of_all (by decide)⟩
  exact text_of_clean (performs_classDecl _) {} (clean_labelled _)

end CSharp

end ServiceWriter

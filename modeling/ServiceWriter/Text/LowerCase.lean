import ServiceWriter.Text.CaseTables

/-!
# Lower case

The full lower case of a text, independent of language. Two characters need more than the table of
simple mappings: the dotted capital I becomes an `i` with a combining dot above, and a capital sigma
that ends a word becomes the final form.
-/

set_option autoImplicit false

namespace ServiceWriter.Text

/-- Whether a code point lies in one of the ranges. -/
def inRanges (ranges : List (Nat × Nat)) (n : Nat) : Bool :=
  ranges.any fun (first, last) => first ≤ n && n ≤ last

/-- A letter with a case. -/
def isCased (c : Char) : Bool := inRanges casedRanges c.toNat

/-- A character that does not separate a sigma from the letters around it. -/
def isCaseIgnorable (c : Char) : Bool := inRanges caseIgnorableRanges c.toNat

/-- Whether a run maps the code point. -/
def CaseRun.covers (run : CaseRun) (n : Nat) : Bool :=
  run.first ≤ n && n ≤ run.last && (n - run.first) % run.step == 0

/-- The simple lower case of a character; a character outside the table is its own. -/
def lowerChar (c : Char) : Char :=
  match lowerCaseRuns.find? (·.covers c.toNat) with
  | some run => Char.ofNat (c.toNat + run.shift).toNat
  | none => c

/-- Whether the first character that is not case-ignorable is cased. -/
def startsCased : List Char → Bool
  | [] => false
  | c :: rest => if isCaseIgnorable c then startsCased rest else isCased c

/-- The lower case of the rest of a text. `afterCased` says that the last character before it that is
not case-ignorable is cased. -/
def lowerChars (afterCased : Bool) : List Char → List Char
  | [] => []
  | c :: rest =>
    let lowered :=
      if c = '\u03A3' then
        [if afterCased && !startsCased rest then '\u03C2' else '\u03C3']
      else if c = '\u0130' then
        ['i', '\u0307']
      else
        [lowerChar c]
    lowered ++ lowerChars (if isCaseIgnorable c then afterCased else isCased c) rest

/-- The text in lower case. -/
def lowerCase (text : String) : String :=
  String.ofList (lowerChars false text.toList)

end ServiceWriter.Text

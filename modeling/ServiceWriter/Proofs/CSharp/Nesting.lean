import Mathlib.Data.List.Basic
import ServiceWriter.Proofs.Walk.CSharp

/-!
# Nested lines

Lines with blocks in braces between them form a `Forest`: a line alone, or a line and the block
behind it, and then the lines that follow. A forest is written by rows, each block one level deeper
than the line it belongs to. The lines nest (`Forest.nests`): each closing brace stands at the indentation of
the opening one it belongs to, and what is between them is indented deeper, except for empty lines,
which are never indented. And the forest is read off its lines again (`readForest_lines`), by a
reader that goes through them from the last to the first.
-/

set_option autoImplicit false

namespace ServiceWriter.CSharp

/-! ## Forests -/

/-- Lines, each alone or with the block behind it. -/
inductive Forest where
  | nil
  | line (text : String) (rest : Forest)
  | headed (header : String) (inner rest : Forest)
  deriving DecidableEq, Repr

namespace Forest

/-- The rows of a forest, its blocks between braces. -/
def rows : Forest → List Row
  | .nil => []
  | .line text rest => row text :: rest.rows
  | .headed header inner rest => row header :: (bracedRows inner.rows ++ rest.rows)

/-- One forest behind another. -/
def append : Forest → Forest → Forest
  | .nil, after => after
  | .line text rest, after => .line text (rest.append after)
  | .headed header inner rest, after => .headed header inner (rest.append after)

@[simp] theorem append_nil (f : Forest) : f.append .nil = f := by
  induction f with
  | nil => rfl
  | line text rest ih => rw [append, ih]
  | headed header inner rest _ ih => rw [append, ih]

end Forest

/-! ## Lines -/

/-- A line of blanks and one brace. -/
def IsBraceLine (line : String) : Prop :=
  line.toList.filter (· != ' ') = ['\x7b'] ∨ line.toList.filter (· != ' ') = ['\x7d']

/-- A text that is no brace, with whatever blanks: it is empty, or has a character that is neither a
blank nor a brace. -/
def IsPlainText (text : String) : Prop :=
  text = "" ∨ ∃ c ∈ text.toList, c ≠ ' ' ∧ c ≠ '\x7b' ∧ c ≠ '\x7d'

/-- All texts of the forest are plain. -/
def Forest.IsPlain : Forest → Prop
  | .nil => True
  | .line text rest => IsPlainText text ∧ rest.IsPlain
  | .headed header inner rest => IsPlainText header ∧ inner.IsPlain ∧ rest.IsPlain

/-- The lines at the indentation `depth` nest. Lines between two braces are indented one level
deeper, or empty, and nest in turn; no other line is a brace. -/
inductive Nests : Nat → List String → Prop
  | nil (depth : Nat) : Nests depth []
  | empty {depth : Nat} {lines : List String} (rest : Nests depth lines) : Nests depth ("" :: lines)
  | line {depth : Nat} {text : String} {lines : List String}
      (plain : ¬ IsBraceLine (Layout.indentation depth ++ text)) (rest : Nests depth lines) :
      Nests depth ((Layout.indentation depth ++ text) :: lines)
  | block {depth : Nat} {inner lines : List String} (inside : Nests (depth + 1) inner)
      (rest : Nests depth lines) :
      Nests depth ((Layout.indentation depth ++ "\x7b") ::
        (inner ++ (Layout.indentation depth ++ "\x7d") :: lines))

theorem filter_indentation (depth : Nat) :
    (Layout.indentation depth).toList.filter (· != ' ') = [] := by
  simp [Layout.indentation]

theorem IsPlainText.not_isBraceLine {text : String} (plain : IsPlainText text) (depth : Nat) :
    ¬ IsBraceLine (Layout.indentation depth ++ text) := by
  unfold IsBraceLine
  rw [String.toList_append, List.filter_append, filter_indentation, List.nil_append]
  rcases plain with rfl | ⟨c, inside, notBlank, notOpening, notClosing⟩
  · simp
  · have kept : c ∈ text.toList.filter (· != ' ') :=
      List.mem_filter.mpr ⟨inside, bne_iff_ne.mpr notBlank⟩
    rintro (same | same)
    · exact notOpening (List.mem_singleton.mp (same ▸ kept))
    · exact notClosing (List.mem_singleton.mp (same ▸ kept))

theorem line_row (depth : Nat) (text : String) (filled : text ≠ "") :
    (row text).line depth = Layout.indentation depth ++ text :=
  if_neg filled

theorem line_row_empty (depth : Nat) : (row "").line depth = "" := rfl

/-- The lines of rows between braces. -/
theorem lines_bracedRows (depth : Nat) (rows : List Row) :
    (bracedRows rows).map (Row.line depth) =
      (Layout.indentation depth ++ "\x7b") ::
        (rows.map (Row.line (depth + 1)) ++ [Layout.indentation depth ++ "\x7d"]) := by
  rw [bracedRows, List.map_cons, List.map_append, line_deeper, List.map_singleton,
    line_row depth _ (by decide), line_row depth _ (by decide)]

/-- A line before lines that nest. -/
theorem Nests.cons {depth : Nat} {text : String} {lines : List String} (plain : IsPlainText text)
    (rest : Nests depth lines) : Nests depth ((row text).line depth :: lines) := by
  by_cases empty : text = ""
  · rw [empty, line_row_empty]
    exact .empty rest
  · rw [line_row depth text empty]
    exact .line (plain.not_isBraceLine depth) rest

/-- **The lines of a forest nest.** -/
theorem Forest.nests {f : Forest} (plain : f.IsPlain) (depth : Nat) :
    Nests depth (f.rows.map (Row.line depth)) := by
  induction f generalizing depth with
  | nil => exact .nil depth
  | line text rest ih => exact .cons plain.1 (ih plain.2 depth)
  | headed header inner rest ihInner ihRest =>
    have block := Nests.block (ihInner plain.2.1 (depth + 1)) (ihRest plain.2.2 depth)
    rw [rows, List.map_cons, List.map_append, lines_bracedRows, List.cons_append, List.append_assoc]
    exact .cons plain.1 block

/-! ## Reading lines -/

/-- What is known of the lines from some point on: the block that stands there without the line it
belongs to, the lines up to the next closing brace, and what comes behind that brace and each further
one. -/
structure Reading where
  block : Option Forest := none
  current : Forest := .nil
  outer : List Forest := []

/-- The text of a line at the given depth. -/
def unindent (depth : Nat) (line : String) : Option String :=
  if line = "" then some ""
  else ((Layout.indentation depth).toList.isPrefixOf? line.toList).map String.ofList

/-- A text before what has been read. A block there belongs to it. -/
def Reading.text (r : Reading) (text : String) : Reading :=
  match r.block with
  | none => { r with current := .line text r.current }
  | some inner => { r with block := none, current := .headed text inner r.current }

/-- A line before what has been read. -/
def Reading.line (r : Reading) (line : String) : Option Reading :=
  let depth := r.outer.length
  if line = Layout.indentation depth ++ "\x7d" then
    if r.block.isSome then none else some { current := .nil, outer := r.current :: r.outer }
  else
    match r.outer with
    | [] => (unindent depth line).map r.text
    | after :: outer =>
      if line = Layout.indentation outer.length ++ "\x7b" then
        if r.block.isSome then none else some ⟨some r.current, after, outer⟩
      else
        (unindent depth line).map r.text

/-- Reads lines, from the last to the first. -/
def readLines : List String → Option Reading
  | [] => some {}
  | line :: rest => (readLines rest).bind fun r => r.line line

/-- Reads the forest that lines at the left margin are written from. -/
def readForest (lines : List String) : Option Forest :=
  match readLines lines with
  | some ⟨none, f, []⟩ => some f
  | _ => none

variable {r : Reading} {text : String}

theorem unindent_line (depth : Nat) (text : String) :
    unindent depth ((row text).line depth) = some text := by
  unfold unindent
  by_cases empty : text = ""
  · rw [empty, line_row_empty, if_pos rfl]
  · have filled : Layout.indentation depth ++ text ≠ "" := by
      simp [empty]
    rw [line_row depth text empty, if_neg filled, String.toList_append,
      List.isPrefixOf?_eq_some_iff_append_eq.mpr rfl, Option.map_some, String.ofList_toList]

theorem isBraceLine_closing (depth : Nat) :
    IsBraceLine (Layout.indentation depth ++ "\x7d") := by
  refine .inr ?_
  rw [String.toList_append, List.filter_append, filter_indentation]
  rfl

theorem isBraceLine_opening (depth : Nat) :
    IsBraceLine (Layout.indentation depth ++ "\x7b") := by
  refine .inl ?_
  rw [String.toList_append, List.filter_append, filter_indentation]
  rfl

theorem not_isBraceLine_line (plain : IsPlainText text) (depth : Nat) :
    ¬ IsBraceLine ((row text).line depth) := by
  by_cases empty : text = ""
  · rw [empty, line_row_empty]
    simp [IsBraceLine]
  · rw [line_row depth text empty]
    exact plain.not_isBraceLine depth

/-- A plain line is read as its text. -/
theorem Reading.line_row (plain : IsPlainText text) :
    r.line ((row text).line r.outer.length) = some (r.text text) := by
  have notClosing : (row text).line r.outer.length ≠ Layout.indentation r.outer.length ++ "\x7d" :=
    fun same => not_isBraceLine_line plain _ (same ▸ isBraceLine_closing _)
  have notOpening (depth : Nat) :
      (row text).line r.outer.length ≠ Layout.indentation depth ++ "\x7b" :=
    fun same => not_isBraceLine_line plain _ (same ▸ isBraceLine_opening _)
  unfold Reading.line
  simp only [if_neg notClosing, unindent_line, Option.map_some]
  split
  · rfl
  · rw [if_neg (notOpening _)]

theorem Reading.line_closing (current : Forest) (outer : List Forest) :
    Reading.line ⟨none, current, outer⟩ (Layout.indentation outer.length ++ "\x7d") =
      some ⟨none, .nil, current :: outer⟩ :=
  if_pos rfl

theorem Reading.line_opening (inner after : Forest) (outer : List Forest) :
    Reading.line ⟨none, inner, after :: outer⟩ (Layout.indentation outer.length ++ "\x7b") =
      some ⟨some inner, after, outer⟩ := by
  have apart : Layout.indentation outer.length ++ "\x7b" ≠
      Layout.indentation (after :: outer).length ++ "\x7d" := by
    intro same
    have last := congrArg (fun text => text.toList.getLast?) same
    simp at last
  unfold Reading.line
  rw [if_neg apart]
  simp

/-- **The lines of a forest are read as the forest**, before what has been read behind them. -/
theorem readLines_append {f : Forest} (plain : f.IsPlain) {lines : List String} {after : Forest}
    {outer : List Forest} (read : readLines lines = some ⟨none, after, outer⟩) :
    readLines (f.rows.map (Row.line outer.length) ++ lines) =
      some ⟨none, f.append after, outer⟩ := by
  induction f generalizing lines after outer with
  | nil => exact read
  | line text rest ih =>
    rw [Forest.rows, List.map_cons, List.cons_append, readLines, ih plain.2 read, Option.bind_some]
    exact Reading.line_row plain.1
  | headed header inner rest ihInner ihRest =>
    have behind := ihRest plain.2.2 read
    have closed : readLines ((Layout.indentation outer.length ++ "\x7d") ::
        (rest.rows.map (Row.line outer.length) ++ lines)) =
        some ⟨none, .nil, rest.append after :: outer⟩ := by
      rw [readLines, behind, Option.bind_some, Reading.line_closing]
    have inside := ihInner plain.2.1 closed
    rw [Forest.append_nil, List.length_cons] at inside
    rw [Forest.rows, List.map_cons, List.map_append, lines_bracedRows]
    simp only [List.cons_append, List.append_assoc, List.nil_append]
    rw [readLines, readLines, inside, Option.bind_some, Reading.line_opening, Option.bind_some]
    exact Reading.line_row plain.1

/-- **A forest is read off its lines.** -/
theorem readForest_lines {f : Forest} (plain : f.IsPlain) :
    readForest (f.rows.map (Row.line 0)) = some f := by
  have read := @readLines_append f plain [] .nil [] rfl
  rw [List.append_nil, Forest.append_nil, List.length_nil] at read
  unfold readForest
  rw [read]

/-- A line that is indented too far keeps its blanks; one that is not indented far enough is no line of
the block. -/
example :
    readForest ["a", "\x7b", "      b;", "\x7d"] = some (.headed "a" (.line "  b;" .nil) .nil) ∧
      readForest ["a", "\x7b", "  b;", "\x7d"] = none := by
  decide

end ServiceWriter.CSharp

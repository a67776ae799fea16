import ServiceWriter.Proofs.CSharp.LineEnds
import ServiceWriter.Proofs.Walk.Agreement

/-!
# A C# namespace is composed of its classes

The text of a namespace is put together, line by line, from its imports, its name and the texts of
its classes, each emitted alone under the imports of the namespace (`composed`). To write a class in
a namespace indents its lines, and does nothing else to them (`line_succ`). So is the refusal of a
namespace put together from what is wrong with its imports and its name and from the refusals of its
classes.
-/

set_option autoImplicit false

namespace ServiceWriter

open Text

namespace CSharp

/-! ## Texts and lines -/

/-- The text of lines. -/
def textOf (lines : List String) : String := "\n".intercalate lines ++ "\n"

/-- The lines of a text that ends with its last line. -/
def linesOf (text : String) : List String :=
  (splitEach '\n' text.toList).dropLast.map String.ofList

theorem textOf_cons_cons (first second : String) (rest : List String) :
    textOf (first :: second :: rest) = first ++ "\n" ++ textOf (second :: rest) := by
  rw [textOf, textOf, String.intercalate_cons_cons, String.append_assoc]

theorem splitEach_line {line : String} (plain : '\n' ∉ line.toList) (after : List Char) :
    splitEach '\n' (line.toList ++ '\n' :: after) = line.toList :: splitEach '\n' after := by
  rw [splitEach_append_cons, splitEach_of_notMem plain]
  rfl

/-- **The lines of the text of lines** are these lines, if there are any and no line holds a line
feed. -/
theorem linesOf_textOf {lines : List String} (some : lines ≠ [])
    (plain : ∀ line ∈ lines, '\n' ∉ line.toList) : linesOf (textOf lines) = lines := by
  have split : splitEach '\n' (textOf lines).toList = lines.map String.toList ++ [[]] := by
    induction lines with
    | nil => exact absurd rfl some
    | cons first rest ih =>
      rw [List.forall_mem_cons] at plain
      cases rest with
      | nil =>
        have chars : (textOf [first]).toList = first.toList ++ '\n' :: [] := by
          simp [textOf]
        rw [chars, splitEach_line plain.1]
        rfl
      | cons second rest =>
        have chars : (textOf (first :: second :: rest)).toList =
            first.toList ++ '\n' :: (textOf (second :: rest)).toList := by
          simp [textOf_cons_cons]
        rw [chars, splitEach_line plain.1, ih (List.cons_ne_nil _ _) plain.2]
        rfl
  rw [linesOf, split, List.dropLast_concat, List.map_map]
  simp [Function.comp_def]

theorem page_eq (rows : List Row) : page rows = textOf (rows.map (Row.line 0)) := rfl

/-! ## Lines of a namespace -/

/-- A line one level deeper. An empty line stays empty. -/
def indented (line : String) : String := if line = "" then "" else Layout.indentation 1 ++ line

/-- The lines of a namespace with the given texts for its classes. -/
def composedLines (n : Namespace) (texts : List String) : List String :=
  let body := [""].intercalate (texts.map linesOf)
  n.imports.map (fun imported => "using " ++ imported ++ ";") ++
    ((if n.imports.isEmpty then [] else [""]) ++
      (if n.name = "" then body
        else ("namespace " ++ n.name) :: "\x7b" :: (body.map indented ++ ["\x7d"])))

/-- The text of a namespace with the given texts for its classes. -/
def composed (n : Namespace) (texts : List String) : String := textOf (composedLines n texts)

theorem indentation_succ (depth : Nat) :
    Layout.indentation (depth + 1) = Layout.indentation 1 ++ Layout.indentation depth := by
  rw [← String.toList_inj]
  simp [Layout.indentation, List.replicate_add, Nat.mul_add, Nat.add_comm]

/-- **A line that is written one level deeper** is the line indented. -/
theorem line_succ (base : Nat) (r : Row) : r.line (base + 1) = indented (r.line base) := by
  unfold Row.line indented
  by_cases empty : r.text = ""
  · simp [empty]
  · have filled : Layout.indentation (base + r.depth) ++ r.text ≠ "" := by
      simp [empty]
    rw [if_neg empty, if_neg empty, if_neg filled, Nat.add_right_comm, indentation_succ,
      String.append_assoc]

theorem line_zero_row (text : String) : (row text).line 0 = text := by
  unfold Row.line row
  split
  · next empty => exact empty.symm
  · exact String.empty_append

theorem lines_separatedRows (base : Nat) (groups : List (List Row)) :
    (separatedRows groups).map (Row.line base) =
      [""].intercalate (groups.map fun rows => rows.map (Row.line base)) := by
  induction groups with
  | nil => rfl
  | cons rows rest ih =>
    cases rest with
    | nil => simp [separatedRows]
    | cons second rest =>
      rw [separatedRows, List.map_append, List.map_cons, ih]
      · simp [List.intercalate_cons_cons, Row.line, row]
      · exact List.cons_ne_nil _ _

/-- The rows of a namespace are written in the lines composed of its classes, if each text has the
lines of its class. -/
theorem lines_namespaceRows (n : Namespace) {texts : List String}
    (same : texts.map linesOf = n.types.map fun c => (classRows n.imports c).map (Row.line 0)) :
    (namespaceRows n).map (Row.line 0) = composedLines n texts := by
  have body : (separatedRows (n.types.map (classRows n.imports))).map (Row.line 0) =
      [""].intercalate (texts.map linesOf) := by
    rw [lines_separatedRows, same, List.map_map]
    rfl
  have usings : (usingRows n.imports).map (Row.line 0) =
      n.imports.map fun imported => "using " ++ imported ++ ";" := by
    simp [usingRows, line_zero_row]
  have blank : (if n.imports.isEmpty then [] else [row ""]).map (Row.line 0) =
      if n.imports.isEmpty then [] else [""] := by
    split <;> rfl
  have block : (if n.name = "" then separatedRows (n.types.map (classRows n.imports))
        else row ("namespace " ++ n.name) ::
          bracedRows (separatedRows (n.types.map (classRows n.imports)))).map (Row.line 0) =
      if n.name = "" then [""].intercalate (texts.map linesOf)
        else ("namespace " ++ n.name) :: "\x7b" ::
          (([""].intercalate (texts.map linesOf)).map indented ++ ["\x7d"]) := by
    split
    · exact body
    · have deep (rows : List Row) :
          rows.map (Row.line 1) = (rows.map (Row.line 0)).map indented := by
        rw [List.map_map]
        exact List.map_congr_left fun r _ => line_succ 0 r
      simp only [bracedRows, List.map_cons, List.map_append, line_deeper, line_zero_row, deep, body,
        List.map_nil]
  unfold namespaceRows composedLines
  simp only [List.map_append, usings, blank, block]

/-! ## Emissions -/

/-- What is wrong with a dotted name: what is wrong with each of its parts, under the whole name. -/
def dottedDefects (words : ReservedWords) (name : String) : List Defect :=
  (dottedParts name).filterMap fun part => (nameCause words .csharp part).map (⟨·, name⟩)

variable {words : ReservedWords}

theorem defectsOn_dottedVisits (name : String) :
    defectsOn words (dottedVisits name) = dottedDefects words name := by
  simp only [defectsOn, dottedVisits, visitsOf, List.map_map, List.filterMap_map, dottedDefects]
  rfl

theorem dottedDefects_eq_nil_iff {name : String} :
    dottedDefects words name = [] ↔ IsFreeDotted words .csharp name := by
  rw [← defectsOn_dottedVisits, defectsOn_eq_nil_iff, dottedVisits_clean_iff]

/-- The defects of a namespace, in their order. -/
theorem defectsOn_namespace (n : Namespace) :
    defectsOn words n.visits =
      n.imports.flatMap (dottedDefects words) ++
        ((if n.name = "" then [] else dottedDefects words n.name) ++
          n.types.flatMap fun c => defectsOn words c.visits) := by
  have name : defectsOn words n.nameVisits =
      if n.name = "" then [] else dottedDefects words n.name := by
    unfold Namespace.nameVisits
    split
    · rfl
    · exact defectsOn_dottedVisits n.name
  rw [Namespace.visits, defectsOn_append, defectsOn_append, name, Namespace.importVisits,
    Namespace.classVisits, defectsOn_flatMap, defectsOn_flatMap, List.append_assoc]
  simp only [defectsOn_dottedVisits]

/-- The lines of a class that is accepted are those of its rows, if its names of types hold no line
feed. -/
theorem linesOf_page {c : ClassDecl} {imports : List String}
    (clean : ∀ v ∈ c.visits, causeAt words v.site = none)
    (types : ∀ name ∈ c.members.flatMap memberTypeNames, '\n' ∉ name.toList) :
    linesOf (page (classRows imports c)) = (classRows imports c).map (Row.line 0) := by
  have feed : '\n' ∈ lineEnds := by decide
  have plain : ∀ r ∈ classRows imports c, Lacks '\n' r.text := by
    refine lacks_classRows feed clean types fun value _ raw => ?_
    exact ((mem_quote_iff feed value).mp raw).2.1 rfl
  rw [page_eq]
  refine linesOf_textOf (List.cons_ne_nil _ _) fun line written => ?_
  obtain ⟨r, listed, rfl⟩ := List.mem_map.mp written
  exact fun inside => plain r listed ((mem_line_iff feed 0 r).mp inside)

/-- How the outcome for a namespace is composed of the outcomes for its classes. -/
structure IsComposed (words : ReservedWords) (n : Namespace) (whole : Except Failure String)
    (part : ClassDecl → Except Failure String) : Prop where
  /-- It is accepted exactly if its imports, its name and its classes are. -/
  accepted_iff : (∃ text, whole = .ok text) ↔
    (∀ imported ∈ n.imports, IsFreeDotted words .csharp imported) ∧
      (n.name = "" ∨ IsFreeDotted words .csharp n.name) ∧ ∀ c ∈ n.types, ∃ text, part c = .ok text
  /-- Its text is composed of the texts of its classes. -/
  text_of_ok : (∀ name ∈ namespaceTypeNames n, '\n' ∉ name.toList) → ∀ text, whole = .ok text →
    ∃ texts, List.Forall₂ (fun c text => part c = .ok text) n.types texts ∧ text = composed n texts
  /-- It is refused with what is wrong with its imports and its name and what its classes are
  refused with, each reported once. -/
  refused : n.HasPlainNames → (¬ ∃ text, whole = .ok text) →
    whole = .error (.rejected (firstReports (n.imports.flatMap (dottedDefects words) ++
      ((if n.name = "" then [] else dottedDefects words n.name) ++
        n.types.flatMap fun c => reports (part c)))))

/-- **A C# namespace is composed of its classes**, each emitted alone under its imports. -/
theorem emission_composed (words : ReservedWords) (n : Namespace) (emitter other : CSharpEmitter) :
    IsComposed words n ((CSharpEmitter.emitNamespace (.ok words) n).run emitter).1
      fun c => ((CSharpEmitter.emitType (.ok words) c n.imports).run other).1 := by
  have performs := @performs_namespaceDecl words n
  have whole := exists_text_iff performs emitter
  have part (c : ClassDecl) := exists_text_iff (@performs_classDecl n.imports words c) other
  refine ⟨?accepted, ?text, ?refused⟩
  case accepted =>
    refine whole.trans ?_
    rw [defectsOn_namespace, List.append_eq_nil_iff, List.append_eq_nil_iff,
      List.flatMap_eq_nil_iff, List.flatMap_eq_nil_iff, ite_eq_left_iff]
    refine and_congr ?_ (and_congr ?_ ?_)
    · exact forall₂_congr fun _ _ => dottedDefects_eq_nil_iff
    · rw [dottedDefects_eq_nil_iff, or_iff_not_imp_left]
    · exact forall₂_congr fun c _ => (part c).symm
  case text =>
    intro types text ok
    have clean := whole.mp ⟨text, ok⟩
    have printed := Except.ok.inj (ok.symm.trans (text_of_clean performs emitter clean))
    have classes : ∀ c ∈ n.types, defectsOn words c.visits = [] := by
      rw [defectsOn_namespace, List.append_eq_nil_iff, List.append_eq_nil_iff,
        List.flatMap_eq_nil_iff, List.flatMap_eq_nil_iff] at clean
      exact clean.2.2
    rw [namespaceTypeNames, List.forall_mem_flatMap] at types
    refine ⟨n.types.map fun c => page (classRows n.imports c), ?_, ?_⟩
    · rw [List.forall₂_map_right_iff, List.forall₂_same]
      exact fun c listed => text_of_clean (performs_classDecl c) other (classes c listed)
    · rw [printed, page_eq, composed, lines_namespaceRows n]
      rw [List.map_map]
      exact List.map_congr_left fun c listed =>
        linesOf_page (defectsOn_eq_nil_iff.mp (classes c listed)) (types c listed)
  case refused =>
    intro plain refused
    have subjects : ∀ d ∈ defectsOn words n.visits, IsPlain d.subject :=
      fun _ => isPlain_of_mem fun _ => n.isPlain_subject plain
    have parts : (n.types.flatMap fun c =>
        reports ((CSharpEmitter.emitType (.ok words) c n.imports).run other).1) =
        n.types.flatMap fun c => firstReports (defectsOn words c.visits) :=
      List.flatMap_congr fun c listed =>
        reports_emitType words (plain.2.2 c listed) n.imports other
    rw [CSharpEmitter.emitNamespace, outcome_emit_of_isPlain performs subjects emitter,
      if_neg (mt whole.mpr refused), parts, defectsOn_namespace, ← List.append_assoc,
      ← List.append_assoc, firstReports_flatMap]

/-- A namespace with an import and two classes, one of them empty. -/
def twofold (name : String) : Namespace where
  name := name
  imports := ["System"]
  types := [
    { name := "A", members := [.field { name := "x", type := .plain "System.Object" }] },
    { name := "B" }]

/-- Two classes in a namespace, and the same under a reserved name. -/
theorem emission_composed_twofold :
    (∃ texts,
      List.Forall₂ (fun c text =>
        ((CSharpEmitter.emitType (.ok .standard) c ["System"]).run {}).1 = .ok text)
        (twofold "App").types texts ∧
      composed (twofold "App") texts =
        "using System;\n\nnamespace App\n\x7b\n    public class A\n    \x7b\n" ++
          "        private object x;\n    \x7d\n\n    public class B\n    \x7b\n    \x7d\n\x7d\n") ∧
      ((CSharpEmitter.emitNamespace (.ok .standard) (twofold "class")).run {}).1 =
        .error (.rejected [⟨.reservedWord "class", "class"⟩]) := by
  constructor
  · have clean : defectsOn .standard (twofold "App").visits = [] := by decide +kernel
    have ok := text_of_clean (performs_namespaceDecl (twofold "App")) {} clean
    have types : ∀ name ∈ namespaceTypeNames (twofold "App"), '\n' ∉ name.toList := by decide
    obtain ⟨texts, emitted, whole⟩ :=
      (emission_composed .standard (twofold "App") {} {}).text_of_ok types _ ok
    exact ⟨texts, emitted, whole.symm⟩
  · have plain : (twofold "class").HasPlainNames := by
      simp [twofold, Namespace.HasPlainNames, ClassDecl.HasPlainNames, IsPlain, Member.name]
    have reserved : ¬ IsFreeDotted .standard .csharp "class" := by decide +kernel
    have composed := emission_composed .standard (twofold "class") {} {}
    have refused : ¬ ∃ text,
        ((CSharpEmitter.emitNamespace (.ok .standard) (twofold "class")).run {}).1 = .ok text :=
      fun accepted => (composed.accepted_iff.mp accepted).2.1.elim (by decide) reserved
    rw [composed.refused plain refused]
    have once : ∀ c ∈ (twofold "class").types, reports
        ((CSharpEmitter.emitType (.ok .standard) c (twofold "class").imports).run {}).1 = [] := by
      intro c listed
      rw [reports_emitType .standard (plain.2.2 c listed)]
      have clean : ∀ c ∈ (twofold "class").types, defectsOn .standard c.visits = [] := by
        decide +kernel
      rw [clean c listed]
      rfl
    rw [List.flatMap_eq_nil_iff.mpr once]
    refine congrArg (fun defects => Except.error (Failure.rejected defects)) ?_
    decide +kernel

end CSharp

end ServiceWriter

import ServiceWriter.Proofs.CSharp.Meaning
import ServiceWriter.Proofs.CSharp.Unambiguous
import ServiceWriter.Proofs.Walk.Clean

/-!
# Targets of C# expressions

An access is written as the text of its target and the member behind it, without parentheses. The
text of a target is read as the target exactly if the target is primary and all targets in it are,
too (`reads_target_iff`). Otherwise the member belongs to the last operand in the text alone: a field
of a conjunction is written like a conjunction whose last operand is a field.
-/

set_option autoImplicit false

namespace ServiceWriter.CSharp

open Text

variable {imports : List String}

/-! ## What is emitted -/

mutual

/-- The types of a part of an expression are types of the expression. -/
theorem mem_namesOfTypes_of_mem_parts {part : Expr} {name : String}
    (used : name ∈ namesOfTypes part) : ∀ e : Expr, part ∈ e.parts → name ∈ namesOfTypes e
  | .literal _, inside | .this, inside | .variableRef _, inside | .argumentRef _, inside
  | .typeName _, inside | .foreign _, inside => by
    rw [Expr.parts, List.mem_singleton] at inside
    exact inside ▸ used
  | .field target member, inside | .property target member, inside => by
    rw [Expr.parts] at inside
    rcases List.mem_cons.mp inside with rfl | inside
    · exact used
    · rw [namesOfTypes]
      exact mem_namesOfTypes_of_mem_parts used target inside
  | .create type arguments, inside => by
    rw [Expr.parts] at inside
    rcases List.mem_cons.mp inside with rfl | inside
    · exact used
    · rw [namesOfTypes]
      exact List.mem_append_right _ (mem_namesOfTypesAll_of_mem_exprParts used arguments inside)
  | .invoke target method arguments, inside => by
    rw [Expr.parts] at inside
    rcases List.mem_cons.mp inside with rfl | inside
    · exact used
    · rw [namesOfTypes]
      exact List.mem_append.mpr ((List.mem_append.mp inside).imp
        (mem_namesOfTypes_of_mem_parts used target)
        (mem_namesOfTypesAll_of_mem_exprParts used arguments))
  | .binary left operator right, inside => by
    rw [Expr.parts] at inside
    rcases List.mem_cons.mp inside with rfl | inside
    · exact used
    · rw [namesOfTypes]
      exact List.mem_append.mpr ((List.mem_append.mp inside).imp
        (mem_namesOfTypes_of_mem_parts used left) (mem_namesOfTypes_of_mem_parts used right))

theorem mem_namesOfTypesAll_of_mem_exprParts {part : Expr} {name : String}
    (used : name ∈ namesOfTypes part) :
    ∀ es : List Expr, part ∈ exprParts es → name ∈ namesOfTypesAll es
  | [], inside => nomatch inside
  | e :: rest, inside => by
    rw [exprParts] at inside
    rw [namesOfTypesAll]
    exact List.mem_append.mpr ((List.mem_append.mp inside).imp
      (mem_namesOfTypes_of_mem_parts used e) (mem_namesOfTypesAll_of_mem_exprParts used rest))

end

/-- The emitter finds nothing wrong with the expression. -/
def IsClean (e : Expr) : Prop := ∀ site ∈ e.sites, causeAt .standard site = none

/-- The parts of the names of its types may be written as they stand. -/
def HasFreeTypes (e : Expr) : Prop :=
  ∀ name ∈ namesOfTypes e, ∀ part ∈ dottedParts name, IsFreeName part

instance (e : Expr) : Decidable (IsClean e) :=
  inferInstanceAs (Decidable (∀ site ∈ e.sites, causeAt .standard site = none))

instance (e : Expr) : Decidable (HasFreeTypes e) :=
  inferInstanceAs (Decidable (∀ name ∈ namesOfTypes e, ∀ part ∈ dottedParts name, IsFreeName part))

theorem isSound_of_isClean {e : Expr} (clean : IsClean e) (types : HasFreeTypes e) : IsSound e := by
  cases e with
  | literal value =>
    cases value with
    | number value =>
      have fine : numberCause value = none := clean (.number value) List.mem_cons_self
      change value.isFinite = true
      by_contra infinite
      rw [numberCause, if_neg infinite] at fine
      cases fine
    | _ => trivial
  | field target name | property target name | variableRef name | argumentRef name =>
    rw [IsClean, Expr.sites] at clean
    exact isFreeName_of_nameCause (clean _ List.mem_cons_self)
  | invoke target name arguments =>
    rw [IsClean, Expr.sites] at clean
    exact isFreeName_of_nameCause (clean _ List.mem_cons_self)
  | typeName type =>
    rw [HasFreeTypes, namesOfTypes] at types
    exact types
  | create type arguments =>
    rw [HasFreeTypes, namesOfTypes] at types
    exact fun name among => types name (List.mem_append_left _ among)
  | foreign node => exact absurd (clean (.foreign node.kind) List.mem_cons_self) (by simp [causeAt])
  | this | binary _ _ _ => trivial

theorem isSoundThrough_of_isClean {e : Expr} (clean : IsClean e) (types : HasFreeTypes e) :
    IsSoundThrough e := by
  intro part inside
  refine isSound_of_isClean (fun site visited => ?_) (fun name used => ?_)
  · exact clean site (mem_sites_of_mem_parts visited e inside)
  · exact types name (mem_namesOfTypes_of_mem_parts used e inside)

/-- What is emitted for an expression is its text, if nothing is wrong with it. -/
theorem emitsCleanly_iff {e : Expr} {text : String} :
    EmitsCleanly imports e text ↔ text = expressionText imports e ∧ IsClean e := by
  refine ⟨EmitsCleanly.spec, ?_⟩
  rintro ⟨rfl, clean⟩
  refine emitsCleanly_of_clean (List.filterMap_eq_nil_iff.mpr ?_)
  intro visit among
  obtain ⟨site, visited, rfl⟩ := List.mem_map.mp among
  rw [clean site visited]
  rfl

/-- **What is emitted for an expression is read as the expression** exactly if all targets in it are
primary. -/
theorem reads_emitted_iff {e : Expr} {text : String} (emits : EmitsCleanly imports e text)
    (types : HasFreeTypes e) {s : Sequence} (read : ReadsAs text s) :
    s.phrase = meaning imports e ↔ hasPrimaryTargets e = true := by
  obtain ⟨rfl, clean⟩ := emitsCleanly_iff.mp emits
  rw [(readsAs_expressionText_iff (isSoundThrough_of_isClean clean types)).mp read]
  exact phrase_sequenceOf_iff

/-! ## Targets -/

/-- What stands behind a target. -/
inductive Suffix where
  | field (name : String)
  | property (name : String)
  | invoke (method : String) (arguments : List Expr)

namespace Suffix

/-- The access to a target. -/
def on (target : Expr) : Suffix → Expr
  | .field name => .field target name
  | .property name => .property target name
  | .invoke method arguments => .invoke target method arguments

/-- What is written behind the text of the target. -/
def text (imports : List String) : Suffix → String
  | .field name | .property name => "." ++ name
  | .invoke method arguments =>
    "." ++ method ++ "(" ++ ", ".intercalate (expressionTexts imports arguments) ++ ")"

theorem expressionText_on (suffix : Suffix) (target : Expr) :
    expressionText imports (suffix.on target) =
      expressionText imports target ++ suffix.text imports := by
  cases suffix <;> simp only [on, text, expressionText, String.append_assoc]

theorem isBinary_on (suffix : Suffix) (target : Expr) : (suffix.on target).isBinary = false := by
  cases suffix <;> rfl

/-- The access visits what its target visits, and more that does not depend on the target. -/
theorem exists_sites_on (suffix : Suffix) : ∃ before after, ∀ target : Expr,
    (suffix.on target).sites = before ++ (target.sites ++ after) := by
  cases suffix with
  | field name | property name =>
    refine ⟨[.member name], [], fun target => ?_⟩
    rw [on, Expr.sites, List.append_nil]
    rfl
  | invoke method arguments =>
    refine ⟨[.member method], exprSites arguments, fun target => ?_⟩
    rw [on, Expr.sites]
    rfl

theorem isClean_target {suffix : Suffix} {target : Expr} (clean : IsClean (suffix.on target)) :
    IsClean target := by
  obtain ⟨before, after, sites⟩ := suffix.exists_sites_on
  intro site visited
  refine clean site ?_
  rw [sites]
  exact List.mem_append_right _ (List.mem_append_left _ visited)

/-- An access to an application of an operator is clean together with the application to the access. -/
theorem isClean_on_binary {suffix : Suffix} {left right : Expr} {operator : Operator}
    (clean : IsClean (suffix.on (.binary left operator right))) :
    IsClean (.binary left operator (suffix.on right)) := by
  obtain ⟨before, after, sites⟩ := suffix.exists_sites_on
  rw [IsClean, sites, Expr.sites] at clean
  intro site visited
  rw [Expr.sites, sites] at visited
  refine clean site ?_
  simp only [List.mem_append] at visited ⊢
  tauto

end Suffix

theorem operand_eq_iff (e : Expr) (text : String) : operand e text = text ↔ e.isBinary = false := by
  unfold operand
  split
  · rename_i binary
    rw [binary]
    refine ⟨fun same => absurd (congrArg String.length same) ?_, nofun⟩
    rw [String.length_append, String.length_append]
    have parenthesis : "(".length = 1 := rfl
    omega
  · rename_i plain
    simpa using plain

/-- The text of an access to an application of an operator is that of the application to the access,
unless the last operand is in parentheses. -/
theorem expressionText_on_binary_iff {suffix : Suffix} {left right : Expr} {operator : Operator} :
    expressionText imports (suffix.on (.binary left operator right)) =
        expressionText imports (.binary left operator (suffix.on right)) ↔
      right.isBinary = false := by
  rw [Suffix.expressionText_on, expressionText, expressionText,
    (operand_eq_iff _ _).mpr (suffix.isBinary_on right), Suffix.expressionText_on,
    ← String.append_assoc, String.append_left_inj, String.append_right_inj, operand_eq_iff]

/-- **What stands before a member is read as the target** exactly if the target is primary and all
targets in it are, too. Any access is emitted as the text of its target, which can be read in one way
only, and the member behind it. An access to an application of an operator is emitted just as if it
belonged to the last operand alone, unless that operand is in parentheses. -/
theorem reads_target_iff {target : Expr} {suffix : Suffix} {text : String}
    (emits : EmitsCleanly imports (suffix.on target) text) (types : HasFreeTypes target) :
    (∃ before, EmitsCleanly imports target before ∧ text = before ++ suffix.text imports ∧
      (∃! s, ReadsAs before s) ∧
      (ReadsAs before (.single (meaning imports target)) ↔
        isPrimary target = true ∧ hasPrimaryTargets target = true)) ∧
    ∀ left operator right, target = .binary left operator right →
      (EmitsCleanly imports (.binary left operator (suffix.on right)) text ↔
        right.isBinary = false) := by
  obtain ⟨rfl, clean⟩ := emitsCleanly_iff.mp emits
  have inner := Suffix.isClean_target clean
  have reads {s : Sequence} : ReadsAs (expressionText imports target) s ↔
      s = sequenceOf imports target :=
    readsAs_expressionText_iff (isSoundThrough_of_isClean inner types)
  refine ⟨⟨expressionText imports target, ?emitted, suffix.expressionText_on target, ?unique,
    ?meant⟩, ?operands⟩
  case emitted => exact emitsCleanly_iff.mpr ⟨rfl, inner⟩
  case unique => exact ⟨_, reads.mpr rfl, fun s read => reads.mp read⟩
  case meant => exact (reads.trans eq_comm).trans sequenceOf_eq_single_iff
  case operands =>
    rintro left operator right rfl
    rw [emitsCleanly_iff, expressionText_on_binary_iff]
    exact and_iff_left (Suffix.isClean_on_binary clean)

/-- A call on a property is read as a call on the property. -/
theorem reads_target_iff_call :
    EmitsCleanly [] ((Suffix.invoke "Read" [.this]).on (.property (.argumentRef "a") "b"))
        "a.b.Read(this)" ∧
      ReadsAs "a.b" (.single (.access (.word "a") "b")) := by
  have emits : EmitsCleanly [] ((Suffix.invoke "Read" [.this]).on (.property (.argumentRef "a") "b"))
      "a.b.Read(this)" := emitsCleanly_of_clean (by decide)
  obtain ⟨before, emitted, _, _, meant⟩ := (reads_target_iff emits (by decide)).1
  obtain rfl : before = "a.b" := (emitsCleanly_iff.mp emitted).1
  exact ⟨emits, meant.mpr ⟨rfl, rfl⟩⟩

/-- A conjunction. -/
def conjunction : Expr := .binary (.variableRef "a") .booleanAnd (.variableRef "b")

/-- A class with one field, which is a field of the conjunction at first. -/
def conjoined : ClassDecl where
  name := "C"
  members := [.field {
    name := "x", type := .plain "System.Object", initializer := some (.field conjunction "n") }]

/-- A field of a conjunction is emitted as a conjunction, whose last operand it is a field of. -/
theorem reads_target_iff_conjunction :
    ((CSharpEmitter.emitType (.ok .standard) conjoined []).run {}).1 =
        .ok "public class C\n\x7b\n    private object x = a && b.n;\n\x7d\n" ∧
      EmitsCleanly [] (.field conjunction "n") "a && b.n" ∧
      EmitsCleanly [] (.binary (.variableRef "a") .booleanAnd (.field (.variableRef "b") "n"))
        "a && b.n" ∧
      ¬ ReadsAs "a && b" (.single (meaning [] conjunction)) ∧
      ∀ s, ReadsAs "a && b.n" s →
        s.phrase = .binary (.word "a") .booleanAnd (.access (.word "b") "n") := by
  have emits : EmitsCleanly [] (.binary (.variableRef "a") .booleanAnd (.field (.variableRef "b") "n"))
      "a && b.n" := emitsCleanly_of_clean (by decide)
  refine ⟨?text, emitsCleanly_of_clean (by decide), emits, ?target, ?whole⟩
  case text =>
    have clean : defectsOn .standard conjoined.visits = [] := by decide +kernel
    exact text_of_clean (performs_classDecl _) {} clean
  case target =>
    intro read
    have sound : IsSoundThrough conjunction := isSoundThrough_of_isClean (by decide) (by decide)
    have same : .single (meaning [] conjunction) = sequenceOf [] conjunction :=
      (readsAs_expressionText_iff sound).mp read
    exact absurd (isPrimary_of_single same.symm) (by decide)
  case whole => exact fun s read => (reads_emitted_iff emits (by decide) read).mpr rfl

end ServiceWriter.CSharp

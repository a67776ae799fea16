import ServiceWriter.Proofs.CSharp.Reading

/-!
# The text of a C# expression determines it

Two expressions that the emitter of C# writes with one text have one normal form, if nothing is
wrong with them (`text_eq_iff`). The reader reads the text back as the normal form of either.
-/

set_option autoImplicit false

namespace ServiceWriter.CSharp

open Text

/-! ## Numbers -/

/-- Since the written form of a number determines it, numbers can be read back. -/
theorem exists_readsNumbers : ∃ number, ReadsNumbers number := by
  classical
  let number (n : Numeral) : Binary64 :=
    if known : ∃ x : Binary64, x.isFinite = true ∧ x.shortest.numeral = n then
      known.choose.unsignedZero
    else .zero false
  refine ⟨number, fun x finite => ?_⟩
  have known : ∃ y : Binary64, y.isFinite = true ∧ y.shortest.numeral = x.shortest.numeral :=
    ⟨x, finite, rfl⟩
  obtain ⟨finite', same⟩ := known.choose_spec
  have texts : known.choose.text = x.text := by
    rw [Binary64.text, Binary64.text, if_pos finite, if_pos finite', Decimal.text_eq,
      Decimal.text_eq, same]
  simp only [number, dif_pos known]
  exact Binary64.unsignedZero_eq_of_text_eq finite' finite texts

/-! ## Emission -/

/-- Under the imports the emitter writes the text for the expression, and reports nothing. -/
def EmitsCleanly (imports : List String) (e : Expr) (text : String) : Prop :=
  ∃ (subject : String) (s s' : CSharpEmitter), s.imports = imports ∧ s.collector = .empty ∧
    Emit.Runs (expression (.ok .standard) subject e) s text s' ∧ s'.collector = .empty

theorem clean_of_defectsAt_eq_nil {words : ReservedWords} {subject : String} {sites : List Site}
    (clean : defectsAt words subject sites = []) :
    ∀ site ∈ sites, causeAt words site = none := by
  intro site member
  have visited : (⟨site, subject⟩ : Visit) ∈ visitsOf subject sites := List.mem_map_of_mem member
  have nothing := List.filterMap_eq_nil_iff.mp clean _ visited
  exact Option.map_eq_none_iff.mp nothing

/-- What is written then is the text of the expression, and nothing is wrong in it. -/
theorem EmitsCleanly.spec {imports : List String} {e : Expr} {text : String}
    (emits : EmitsCleanly imports e text) :
    text = expressionText imports e ∧ ∀ site ∈ e.sites, causeAt .standard site = none := by
  obtain ⟨subject, s, s', sameImports, fresh, run, still⟩ := emits
  have writes : Performs imports (expression (.ok .standard) subject e) _ _ [] :=
    performs_expression e
  obtain ⟨sameText, sameState⟩ := run.unique (writes s sameImports)
  rw [sameState] at still
  have none : (Collector.empty.addAll (defectsAt .standard subject e.sites)).defects = [] := by
    rw [← fresh]
    exact congrArg Collector.defects still
  exact ⟨sameText, clean_of_defectsAt_eq_nil (Collector.defects_addAll_eq_nil_iff.mp none)⟩

/-- **The text of a C# expression determines its normal form**, and shows no more than that. No
target may be an application of an operator, which would be written there without parentheses, and
the parts of the names of types must be identifiers and not reserved. -/
theorem text_eq_iff {imports : List String} {e e' : Expr} {text text' : String}
    (emits : EmitsCleanly imports e text) (emits' : EmitsCleanly imports e' text')
    (targets : hasPlainTargets e = true) (targets' : hasPlainTargets e' = true)
    (types : ∀ name ∈ namesOfTypes e, ∀ part ∈ dottedParts name, IsFreeName part)
    (types' : ∀ name ∈ namesOfTypes e', ∀ part ∈ dottedParts name, IsFreeName part) :
    text = text' ↔ normal imports e = normal imports e' := by
  obtain ⟨rfl, clean⟩ := emits.spec
  obtain ⟨rfl, clean'⟩ := emits'.spec
  constructor
  · intro same
    obtain ⟨number, numbers⟩ := exists_readsNumbers
    have ends : EndsExpression [] := fun c member => nomatch member
    have reads : Reads number imports e := reads_expressionText numbers e ⟨clean, targets, types⟩
    have reads' : Reads number imports e' :=
      reads_expressionText numbers e' ⟨clean', targets', types'⟩
    have read := reads.expression [] ends
    have read' := reads'.expression [] ends
    rw [← same] at read'
    exact congrArg Prod.fst (read.unique read')
  · intro same
    rw [expressionText_eq, expressionText_eq, same]

/-- An expression in which nothing is wrong is emitted cleanly. -/
theorem emitsCleanly_of_clean {imports : List String} {e : Expr}
    (clean : defectsAt .standard "" e.sites = []) :
    EmitsCleanly imports e (expressionText imports e) := by
  have writes : Performs imports (expression (.ok .standard) "" e) _ _ [] := performs_expression e
  rw [clean] at writes
  exact ⟨"", { imports := imports }, _, rfl, rfl, writes _ rfl, rfl⟩

/-- A call on a property of an argument. -/
def callOnProperty : Expr :=
  .invoke (.property (.argumentRef "a") "b") "Read" [.literal (.text ", "), .this]

/-- The same call on a field of a variable. -/
def callOnField : Expr :=
  .invoke (.field (.variableRef "a") "b") "Read" [.literal (.text ", "), .this]

/-- Both calls are written alike, so that they have one normal form. -/
theorem text_eq_iff_call :
    expressionText [] callOnProperty = "a.b.Read(\", \", this)" ∧
      expressionText [] callOnField = "a.b.Read(\", \", this)" ∧
      normal [] callOnProperty = normal [] callOnField := by
  have written : expressionText [] callOnProperty = "a.b.Read(\", \", this)" := by decide +kernel
  have written' : expressionText [] callOnField = "a.b.Read(\", \", this)" := by decide +kernel
  have emits : EmitsCleanly [] callOnProperty _ := emitsCleanly_of_clean (by decide)
  have emits' : EmitsCleanly [] callOnField _ := emitsCleanly_of_clean (by decide)
  have same := text_eq_iff emits emits' (by decide) (by decide) (by decide) (by decide)
  exact ⟨written, written', same.mp (written.trans written'.symm)⟩

end ServiceWriter.CSharp

import ServiceWriter.Proofs.Walk.CSharp

/-!
# What C# emission reports

An emission of C# walks the tree once, and its outcome is read off the walk: the text of the rows if
no defect was met, and otherwise the defects in the order of the walk, each reported once
(`CSharp.emitNamespace_eq`). What the emitter did before does not matter.
-/

set_option autoImplicit false

namespace ServiceWriter

namespace CSharp

/-- **C# emission reports exactly the defects of the tree.** The emission of a namespace gives a
text if nothing is wrong at any visit of the walk, and is otherwise refused with what is wrong
there, in the order of the walk and without the later repeats of a code, a subject and a message. -/
theorem emitNamespace_eq (words : ReservedWords) (n : Namespace) (emitter : CSharpEmitter)
    (plain : n.HasPlainNames) :
    ((CSharpEmitter.emitNamespace (.ok words) n).run emitter).1 =
      if defectsOn words n.visits = [] then .ok (page (namespaceRows n))
      else .error (.rejected (firstReports (defectsOn words n.visits))) := by
  have subjects : ∀ d ∈ defectsOn words n.visits, IsPlain d.subject :=
    fun _ => isPlain_of_mem fun _ => n.isPlain_subject plain
  exact outcome_emit_of_isPlain (performs_namespaceDecl n) subjects emitter

/-- A namespace under a reserved name, with a name in a method that is no identifier, used twice. -/
def flawed : Namespace where
  name := "class"
  imports := ["System"]
  types := [{
    name := "A"
    members := [.method {
      name := "m"
      returnType := .plain "System.Void"
      body := [.expression (.variableRef "1x"), .expression (.variableRef "1x")] }] }]

/-- The name that is used twice is reported once. -/
theorem emitNamespace_flawed :
    flawed.HasPlainNames ∧
      ((CSharpEmitter.emitNamespace (.ok .standard) flawed).run {}).1 =
        .error (.rejected [⟨.reservedWord "class", "class"⟩, ⟨.notIdentifier "1x", "A.m"⟩]) := by
  have plain : flawed.HasPlainNames := by
    simp [flawed, Namespace.HasPlainNames, ClassDecl.HasPlainNames, IsPlain, Member.name]
  have found : firstReports (defectsOn .standard flawed.visits) =
      [⟨.reservedWord "class", "class"⟩, ⟨.notIdentifier "1x", "A.m"⟩] := by
    decide +kernel
  refine ⟨plain, ?_⟩
  rw [emitNamespace_eq .standard flawed {} plain, found, if_neg]
  decide +kernel

end CSharp

end ServiceWriter

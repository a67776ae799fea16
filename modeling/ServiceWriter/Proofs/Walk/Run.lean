import ServiceWriter.Proofs.Defect.Collecting
import ServiceWriter.Target.Emission

/-!
# Runs of emitter actions

An action of an emitter that finishes gives a value and leaves a state (`Emit.Runs`). A run of two
actions one after another is made of a run of each (`Emit.Runs.bind`); that is all the later modules
use of the emitters' monad. What comes of an emission as a whole depends on the list of the defects
met in it (`outcome_addAll`).
-/

set_option autoImplicit false

namespace ServiceWriter

namespace Emit

variable {σ α β : Type} {s s' s'' : σ} {v : α} {w : β}

/-- Started in `s`, the action finishes with the value `v` and leaves the state `s'`. -/
def Runs (action : Emit σ α) (s : σ) (v : α) (s' : σ) : Prop :=
  action.run.run s = (Except.ok v, s')

theorem runs_pure (v : α) (s : σ) : Runs (pure v) s v s := rfl

theorem runs_get (s : σ) : Runs get s s s := rfl

theorem runs_set (s s' : σ) : Runs (set s') s ⟨⟩ s' := rfl

theorem runs_modify (f : σ → σ) (s : σ) : Runs (modify f) s ⟨⟩ (f s) := rfl

/-- With a vocabulary at hand, the test for reserved words only answers. -/
theorem runs_isReserved (words : ReservedWords) (language : Language) (name : String) (s : σ) :
    Runs (isReserved (.ok words) language name) s (words.contains language name) s := rfl

namespace Runs

theorem bind {action : Emit σ α} {next : α → Emit σ β} (first : Runs action s v s')
    (second : Runs (next v) s' w s'') : Runs (action >>= next) s w s'' := by
  unfold Runs at first second ⊢
  simp only [ExceptT.run_bind, StateT.run_bind, first]
  exact second

theorem map {action : Emit σ α} (f : α → β) (run : Runs action s v s') :
    Runs (f <$> action) s (f v) s' := by
  rw [← bind_pure_comp]
  exact run.bind (runs_pure _ _)

/-- An action has one run from a state. -/
theorem unique {action : Emit σ α} {v' : α} (first : Runs action s v s')
    (second : Runs action s v' s'') : v = v' ∧ s' = s'' := by
  unfold Runs at first second
  rw [first] at second
  cases second
  exact ⟨rfl, rfl⟩

end Runs

end Emit

/-! ## Outcomes -/

/-- An emission gives its text if no defect was met, and is otherwise refused with what the
collector keeps of the defects. -/
theorem outcome_addAll (defects : List Defect) (text : String) :
    outcome (.ok text) (Collector.empty.addAll defects) =
      if defects = [] then .ok text
      else .error (.rejected (Collector.empty.addAll defects).defects) := by
  unfold outcome Collector.check Collector.hasDefects
  by_cases clean : defects = []
  · rw [if_pos clean, clean]
    rfl
  · have found := mt Collector.defects_addAll_eq_nil_iff.mp clean
    simp [clean, found]

/-- With plain subjects, an emission is refused with the first occurrences of the defects. -/
theorem outcome_of_isPlain {defects : List Defect} (text : String)
    (plain : ∀ d ∈ defects, IsPlain d.subject) :
    outcome (.ok text) (Collector.empty.addAll defects) =
      if defects = [] then .ok text else .error (.rejected (firstReports defects)) := by
  rw [outcome_addAll, Collector.defects_addAll_empty plain]

/-- The defects that an emission is refused with. -/
def reports : Except Failure String → List Defect
  | .error (.rejected defects) => defects
  | _ => []

theorem reports_outcome (defects : List Defect) (text : String) :
    reports (outcome (.ok text) (Collector.empty.addAll defects)) =
      (Collector.empty.addAll defects).defects := by
  rw [outcome_addAll]
  by_cases clean : defects = []
  · rw [if_pos clean, clean]
    rfl
  · rw [if_neg clean]
    rfl

end ServiceWriter

import ServiceWriter.Proofs.Execution.Evaluation

/-!
# Rules for runs

A run that does not fault gives a value and leaves the machine in some state (`Run.Does`). There is a
rule for each form of expression and statement, which says what it does from what its parts do. The
rules are all that is used of the definitions later on.
-/

set_option autoImplicit false

namespace ServiceWriter

theorem Value.isEqual_null (v : Value) : v.isEqual .null = (v == .null) := by
  rcases v with (value | place | token) | _ | fullName
  · cases value <;> rfl
  all_goals rfl

/-- A value that has its members outside: neither the instance nor null. -/
def Value.IsElsewhere (v : Value) : Prop := v ≠ .self ∧ v ≠ .null

theorem Value.isElsewhere_type (fullName : String) : (Value.type fullName).IsElsewhere :=
  ⟨nofun, nofun⟩

theorem Value.isElsewhere_outside {thing : Thing} (proper : thing ≠ .constant .null) :
    (Value.outside thing).IsElsewhere :=
  ⟨nofun, fun same => proper (Value.outside.inj same)⟩

theorem Value.isElsewhere_made (place : Nat) : (Value.outside (.made place)).IsElsewhere :=
  isElsewhere_outside nofun

namespace Run

/-- Started in `s`, the run ends with the value `v` and leaves the state `s'`. -/
def Does {α : Type} (run : Run α) (s : Machine) (v : α) (s' : Machine) : Prop :=
  StateT.run run s = .ok (v, s')

variable {α β : Type} {s s' s'' : Machine} {v : α} {w : β}

theorem does_pure (v : α) (s : Machine) : Does (pure v) s v s := rfl

theorem does_get (s : Machine) : Does get s s s := rfl

theorem does_set (s s' : Machine) : Does (set s') s ⟨⟩ s' := rfl

theorem does_modify (f : Machine → Machine) (s : Machine) : Does (modify f) s ⟨⟩ (f s) := rfl

theorem Does.bind {run : Run α} {next : α → Run β} (first : Does run s v s')
    (second : Does (next v) s' w s'') : Does (run >>= next) s w s'' := by
  unfold Does at first second ⊢
  rw [StateT.run_bind, first]
  exact second

/-- What is made of the value at the end. -/
theorem Does.ret {run : Run α} (first : Does run s v s') (f : α → β) :
    Does (run >>= fun x => pure (f x)) s (f v) s' :=
  first.bind (does_pure _ _)

/-! ## Names -/

theorem does_find {entries : List (String × Value)} {name : String} {value : Value}
    (found : entries.lookup name = some value) : Does (find entries name) s value s := by
  unfold find
  rw [found]
  rfl

theorem does_assign {entries : List (String × Value)} {name : String} {old : Value}
    (found : entries.lookup name = some old) (value : Value) :
    Does (assign entries name value) s (setEntry name value entries) s := by
  unfold assign
  rw [found]
  rfl

/-- What was assigned is found again. -/
theorem lookup_setEntry {entries : List (String × Value)} {name : String} {old : Value}
    (found : entries.lookup name = some old) (value : Value) :
    (setEntry name value entries).lookup name = some value := by
  induction entries with
  | nil => cases found
  | cons entry rest ih =>
    obtain ⟨other, kept⟩ := entry
    unfold setEntry
    by_cases same : other = name
    · rw [if_pos same, List.lookup_cons_self]
    · have differ : (name == other) = false := beq_eq_false_iff_ne.mpr (Ne.symm same)
      rw [if_neg same, List.lookup_cons, differ]
      rw [List.lookup_cons, differ] at found
      exact ih found

/-! ## The outside -/

section

variable {world : World} {c : ClassDecl} {invoke : Frame → List Stmt → Run Value}
  {name : String} {target value : Value} {arguments : List Value}

theorem does_perform (operation : Operation) (s : Machine) :
    Does (perform world operation) s (.outside (world.answer s.trace operation))
      (s.did operation (world.answer s.trace operation)) :=
  rfl

/-! ## Members -/

theorem readMember_self_field {f : Field} (known : c.member? name = some (.field f))
    (found : s.fields.lookup name = some value) :
    Does (readMember world c invoke .self name) s value s := by
  simp only [readMember, known]
  exact (does_get s).bind (does_find found)

theorem readMember_self_property {p : Property} (known : c.member? name = some (.property p))
    (present : p.getter.isPresent = true) (run : Does (invoke {} p.getter.body) s value s') :
    Does (readMember world c invoke .self name) s value s' := by
  simp only [readMember, known, present, if_true]
  exact run

theorem readMember_elsewhere (elsewhere : target.IsElsewhere) (s : Machine) :
    Does (readMember world c invoke target name) s
      (.outside (world s.trace (.read target name)))
      (s.did (.read target name) (world s.trace (.read target name))) := by
  unfold readMember
  split
  · exact absurd rfl elsewhere.1
  · exact absurd rfl elsewhere.2
  · exact does_perform _ s

theorem writeMember_self_field {f : Field} {old : Value}
    (known : c.member? name = some (.field f)) (found : s.fields.lookup name = some old) :
    Does (writeMember world c invoke .self name value) s ()
      { s with fields := setEntry name value s.fields } := by
  simp only [writeMember, known]
  exact (does_get s).bind ((does_assign found value).bind (does_set _ _))

theorem writeMember_elsewhere (elsewhere : target.IsElsewhere) (s : Machine) :
    Does (writeMember world c invoke target name value) s ()
      (s.did (.write target name value) (world s.trace (.write target name value))) := by
  unfold writeMember
  split
  · exact absurd rfl elsewhere.1
  · exact absurd rfl elsewhere.2
  · exact (does_perform _ s).ret fun _ => ()

theorem callMember_self {m : Method} (known : c.member? name = some (.method m))
    (enough : m.parameters.length = arguments.length)
    (run : Does (invoke { arguments := (m.parameters.map Parameter.name).zip arguments } m.body)
      s value s') :
    Does (callMember world c invoke .self name arguments) s value s' := by
  simp only [callMember, known, if_pos enough]
  exact run

theorem callMember_elsewhere (elsewhere : target.IsElsewhere) (s : Machine) :
    Does (callMember world c invoke target name arguments) s
      (.outside (world s.trace (.call target name arguments)))
      (s.did (.call target name arguments) (world s.trace (.call target name arguments))) := by
  unfold callMember
  split
  · exact absurd rfl elsewhere.1
  · exact absurd rfl elsewhere.2
  · exact does_perform _ s

/-! ## Expressions -/

variable {frame frame' : Frame} {e left right : Expr} {es : List Expr} {first second : Value}
  {values : List Value}

theorem evaluate_literal (constant : Literal) (s : Machine) :
    Does (evaluate world c invoke frame (.literal constant)) s (.outside (.constant constant)) s := by
  rw [evaluate]
  exact does_pure _ _

theorem evaluate_this (s : Machine) : Does (evaluate world c invoke frame .this) s .self s := by
  rw [evaluate]
  exact does_pure _ _

theorem evaluate_variableRef (found : frame.locals.lookup name = some value) (s : Machine) :
    Does (evaluate world c invoke frame (.variableRef name)) s value s := by
  rw [evaluate]
  exact does_find found

theorem evaluate_argumentRef (found : frame.arguments.lookup name = some value) (s : Machine) :
    Does (evaluate world c invoke frame (.argumentRef name)) s value s := by
  rw [evaluate]
  exact does_find found

theorem evaluate_typeName (type : TypeRef) (s : Machine) :
    Does (evaluate world c invoke frame (.typeName type)) s (.type type.name) s := by
  rw [evaluate]
  exact does_pure _ _

theorem evaluate_field (before : Does (evaluate world c invoke frame e) s target s')
    (read : Does (readMember world c invoke target name) s' value s'') :
    Does (evaluate world c invoke frame (.field e name)) s value s'' := by
  rw [evaluate]
  exact before.bind read

theorem evaluate_property (before : Does (evaluate world c invoke frame e) s target s')
    (read : Does (readMember world c invoke target name) s' value s'') :
    Does (evaluate world c invoke frame (.property e name)) s value s'' := by
  rw [evaluate]
  exact before.bind read

theorem evaluate_create {type : TypeRef}
    (before : Does (evaluateAll world c invoke frame es) s values s') :
    Does (evaluate world c invoke frame (.create type es)) s (.outside (.made s'.trace.length))
      (s'.did (.create type.name values) (.made s'.trace.length)) := by
  rw [evaluate]
  exact before.bind (does_perform _ _)

theorem evaluate_invoke {s₁ s₂ : Machine}
    (before : Does (evaluate world c invoke frame e) s target s₁)
    (between : Does (evaluateAll world c invoke frame es) s₁ values s₂)
    (called : Does (callMember world c invoke target name values) s₂ value s'') :
    Does (evaluate world c invoke frame (.invoke e name es)) s value s'' := by
  rw [evaluate]
  exact before.bind (between.bind called)

theorem evaluate_identityEquality (before : Does (evaluate world c invoke frame left) s first s')
    (after : Does (evaluate world c invoke frame right) s' second s'') :
    Does (evaluate world c invoke frame (.binary left .identityEquality right)) s
      (.ofBool (first.isEqual second)) s'' := by
  rw [evaluate]
  exact before.bind (after.ret _)

theorem evaluateAll_nil (s : Machine) : Does (evaluateAll world c invoke frame []) s [] s := by
  rw [evaluateAll]
  exact does_pure _ _

theorem evaluateAll_cons (before : Does (evaluate world c invoke frame e) s value s')
    (after : Does (evaluateAll world c invoke frame es) s' values s'') :
    Does (evaluateAll world c invoke frame (e :: es)) s (value :: values) s'' := by
  rw [evaluateAll]
  exact before.bind (after.ret _)

theorem evaluateOption_some (run : Does (evaluate world c invoke frame e) s value s') :
    Does (evaluateOption world c invoke frame (some e)) s value s' :=
  run

/-! ## Statements -/

variable {flow : Flow} {body whenTrue whenFalse : List Stmt}

theorem execute_declare {type : TypeRef}
    (run : Does (evaluate world c invoke frame e) s value s') :
    Does (execute world c invoke frame (.declare type name (some e))) s
      (.goesOn { frame with locals := (name, value) :: frame.locals }) s' := by
  rw [execute]
  exact (evaluateOption_some run).ret _

/-- An assignment to a member looks at the target, then at the value. -/
theorem execute_assign_field {s₁ s₂ : Machine}
    (before : Does (evaluate world c invoke frame e) s target s₁)
    (between : Does (evaluate world c invoke frame right) s₁ value s₂)
    (written : Does (writeMember world c invoke target name value) s₂ () s'') :
    Does (execute world c invoke frame (.assign (.field e name) right)) s (.goesOn frame) s'' := by
  rw [execute]
  exact (before.ret _).bind (between.bind ((written.ret fun _ => frame).ret _))

theorem execute_assign_property {s₁ s₂ : Machine}
    (before : Does (evaluate world c invoke frame e) s target s₁)
    (between : Does (evaluate world c invoke frame right) s₁ value s₂)
    (written : Does (writeMember world c invoke target name value) s₂ () s'') :
    Does (execute world c invoke frame (.assign (.property e name) right)) s (.goesOn frame)
      s'' := by
  rw [execute]
  exact (before.ret _).bind (between.bind ((written.ret fun _ => frame).ret _))

theorem execute_condition_true (test : Does (evaluate world c invoke frame e) s (.ofBool true) s')
    (run : Does (executeAll world c invoke frame whenTrue) s' flow s'') :
    Does (execute world c invoke frame (.condition e whenTrue whenFalse)) s (leave frame flow)
      s'' := by
  rw [execute]
  exact test.bind (Does.bind (does_pure true s') (run.ret _))

theorem execute_condition_false
    (test : Does (evaluate world c invoke frame e) s (.ofBool false) s')
    (run : Does (executeAll world c invoke frame whenFalse) s' flow s'') :
    Does (execute world c invoke frame (.condition e whenTrue whenFalse)) s (leave frame flow)
      s'' := by
  rw [execute]
  exact test.bind (Does.bind (does_pure false s') (run.ret _))

theorem execute_returns (run : Does (evaluate world c invoke frame e) s value s') :
    Does (execute world c invoke frame (.returns (some e))) s (.returns value) s' := by
  rw [execute]
  exact (evaluateOption_some run).ret _

theorem execute_expression (run : Does (evaluate world c invoke frame e) s value s') :
    Does (execute world c invoke frame (.expression e)) s (.goesOn frame) s' := by
  rw [execute]
  exact run.ret fun _ => Flow.goesOn frame

theorem executeAll_nil (s : Machine) :
    Does (executeAll world c invoke frame []) s (.goesOn frame) s := by
  rw [executeAll]
  exact does_pure _ _

theorem executeAll_goesOn {statement : Stmt}
    (run : Does (execute world c invoke frame statement) s (.goesOn frame') s')
    (rest : Does (executeAll world c invoke frame' body) s' flow s'') :
    Does (executeAll world c invoke frame (statement :: body)) s flow s'' := by
  rw [executeAll]
  exact run.bind rest

/-- Nothing is executed after a statement that returns. -/
theorem executeAll_returns {statement : Stmt}
    (run : Does (execute world c invoke frame statement) s (.returns value) s') :
    Does (executeAll world c invoke frame (statement :: body)) s (.returns value) s' := by
  rw [executeAll]
  exact run.bind (does_pure _ _)

theorem runBody_returns {depth : Nat}
    (run : Does (executeAll world c (runBody world c depth) frame body) s (.returns value) s') :
    Does (runBody world c (depth + 1) frame body) s value s' :=
  run.bind (does_pure _ _)

end

end Run

end ServiceWriter

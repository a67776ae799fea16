import ServiceWriter.Proofs.Walk.CSharp
import ServiceWriter.Proofs.Walk.TypeScript

/-!
# Emitters that are used again

A call leaves in its emitter whatever its walk has come to: defects, lines, a depth, references to
types. If the reserved words cannot be had, the walk stops somewhere on the way, and what it leaves
is half done. The next call does not see any of it (`emitters_reusable`): its result is that of an
emitter on which nothing was called before.

For this, what a call does not set afresh must outlast every call, also one that stops: the modules
of the TypeScript emitter. And in C# a walk that comes to its end has gone back to the depth at
which it began. Both are of one form (`Emit.Keeps`) and are shown action by action, whatever the
reserved words.
-/

set_option autoImplicit false

namespace ServiceWriter

namespace Emit

variable {σ α β γ : Type} {view : σ → γ} {stopped : γ → σ → Prop}

/-- What an action leaves: the view `x` of the state if it finishes, and a state as `stop` says if
it stops short. -/
def Leaves (view : σ → γ) (stop : σ → Prop) (x : γ) : Except WordFileError α × σ → Prop
  | (.ok _, s) => view s = x
  | (.error _, s) => stop s

/-- Started where the view is `x`, the action leads to the view `y`, or stops. -/
def Leads (view : σ → γ) (stop : σ → Prop) (x y : γ) (action : Emit σ α) : Prop :=
  ∀ s, view s = x → Leaves view stop y (action.run.run s)

theorem Leads.bind {stop : σ → Prop} {x y z : γ} {action : Emit σ α} {next : α → Emit σ β}
    (first : Leads view stop x y action) (second : ∀ v, Leads view stop y z (next v)) :
    Leads view stop x z (action >>= next) := by
  intro s start
  have middle := first s start
  simp only [ExceptT.run_bind, StateT.run_bind]
  generalize action.run.run s = left at middle ⊢
  obtain ⟨result, s'⟩ := left
  cases result with
  | ok v => exact second v s' middle
  | error e => exact middle

/-- A change of the state that leads from one view to another. -/
theorem leads_modify {stop : σ → Prop} {x y : γ} {f : σ → σ}
    (leads : ∀ s, view s = x → view (f s) = y) :
    Leads view stop x y (modify f : Emit σ Unit) :=
  leads

/-- An action that finishes leaves the view of the state as it was. One that stops short leaves a
state as `stopped` says, given the view before. -/
def Keeps (view : σ → γ) (stopped : γ → σ → Prop) (action : Emit σ α) : Prop :=
  ∀ x, Leads view (stopped x) x x action

namespace Keeps

theorem pure (v : α) : Keeps view stopped (Pure.pure v : Emit σ α) := fun _ _ start => start

theorem bind {action : Emit σ α} {next : α → Emit σ β} (first : Keeps view stopped action)
    (second : ∀ v, Keeps view stopped (next v)) : Keeps view stopped (action >>= next) :=
  fun x => (first x).bind fun v => second v x

theorem ite {condition : Prop} [Decidable condition] {yes no : Emit σ α}
    (whenTrue : Keeps view stopped yes) (whenFalse : Keeps view stopped no) :
    Keeps view stopped (if condition then yes else no) := by
  split
  · exact whenTrue
  · exact whenFalse

end Keeps

theorem keeps_get : Keeps view stopped (get : Emit σ σ) := fun _ _ start => start

/-- A change of the state that does not show. -/
theorem keeps_modify {f : σ → σ} (same : ∀ s, view (f s) = view s) :
    Keeps view stopped (modify f : Emit σ Unit) :=
  fun _ => leads_modify fun s start => (same s).trans start

/-- This is where an action may stop. -/
theorem keeps_isReserved (words : Vocabulary) (language : Language) (name : String)
    (stops : ∀ s, stopped (view s) s) : Keeps view stopped (isReserved words language name) := by
  rintro _ s rfl
  cases words with
  | ok words => exact rfl
  | error e => exact stops s

end Emit

/-! ## The depth in C# -/

namespace CSharp

/-- If the action finishes, the depth is what it was. -/
abbrev KeepsDepth {α : Type} (action : Action α) : Prop :=
  Emit.Keeps CSharpEmitter.depth (fun _ _ => True) action

variable (words : Vocabulary) (subject : String)

theorem keepsDepth_report (cause : Cause) : KeepsDepth (report cause subject) :=
  Emit.keeps_modify fun _ => rfl

theorem keepsDepth_line (text : String) : KeepsDepth (line text) :=
  Emit.keeps_modify fun _ => rfl

theorem keepsDepth_typeName (type : TypeRef) : KeepsDepth (typeName type) :=
  Emit.keeps_get.bind fun _ => .pure _

/-- The way into a body and the way out of it cancel. -/
theorem keepsDepth_braced {body : Action Unit} (inside : KeepsDepth body) :
    KeepsDepth (braced body) := by
  intro depth
  have enter : Emit.Leads CSharpEmitter.depth (fun _ => True) depth (depth + 1) indent :=
    Emit.leads_modify fun _ start => congrArg (· + 1) start
  have leave : Emit.Leads CSharpEmitter.depth (fun _ => True) (depth + 1) depth outdent :=
    Emit.leads_modify fun _ start => congrArg (· - 1) start
  exact (keepsDepth_line _ depth).bind fun _ => enter.bind fun _ =>
    (inside (depth + 1)).bind fun _ => leave.bind fun _ => keepsDepth_line _ depth

theorem keepsDepth_separated : ∀ actions : List (Action Unit),
    (∀ action ∈ actions, KeepsDepth action) → KeepsDepth (separated actions)
  | [], _ => .pure ()
  | [last], each => each last List.mem_cons_self
  | first :: second :: rest, each =>
    (each first List.mem_cons_self).bind fun _ => (keepsDepth_line "").bind fun _ =>
      keepsDepth_separated (second :: rest) fun action listed =>
        each action (List.mem_cons_of_mem first listed)

theorem keepsDepth_checkIdentifier (name : String) :
    KeepsDepth (checkIdentifier words name subject) :=
  .ite ((Emit.keeps_isReserved words .csharp name fun _ => trivial).bind fun _ =>
    .ite (keepsDepth_report _ _) (.pure ())) (keepsDepth_report _ _)

theorem keepsDepth_checkIdentifiers : ∀ names : List String,
    KeepsDepth (checkIdentifiers words subject names)
  | [] => .pure ()
  | name :: rest =>
    (keepsDepth_checkIdentifier words subject name).bind fun _ => keepsDepth_checkIdentifiers rest

theorem keepsDepth_literal : ∀ value : Literal, KeepsDepth (literal subject value)
  | .null | .bool _ | .text _ => .pure _
  | .number _ => .ite (.pure _) ((keepsDepth_report _ _).bind fun _ => .pure _)

mutual

theorem keepsDepth_expression : ∀ e : Expr, KeepsDepth (expression words subject e)
  | .literal value => by
    rw [expression]
    exact keepsDepth_literal subject value
  | .this => by
    rw [expression]
    exact .pure _
  | .field target name | .property target name => by
    rw [expression]
    exact (keepsDepth_checkIdentifier words subject name).bind fun _ =>
      (keepsDepth_expression target).bind fun _ => .pure _
  | .variableRef name | .argumentRef name => by
    rw [expression]
    exact (keepsDepth_checkIdentifier words subject name).bind fun _ => .pure _
  | .typeName type => by
    rw [expression]
    exact keepsDepth_typeName type
  | .create type arguments => by
    rw [expression]
    exact (keepsDepth_typeName type).bind fun _ =>
      (keepsDepth_expressions arguments).bind fun _ => .pure _
  | .invoke target method arguments => by
    rw [expression]
    exact (keepsDepth_checkIdentifier words subject method).bind fun _ =>
      (keepsDepth_expression target).bind fun _ =>
        (keepsDepth_expressions arguments).bind fun _ => .pure _
  | .binary left operator right => by
    rw [expression]
    exact (keepsDepth_expression left).bind fun _ =>
      (keepsDepth_expression right).bind fun _ => .pure _
  | .foreign node => by
    rw [expression]
    exact (keepsDepth_report _ _).bind fun _ => .pure _

theorem keepsDepth_expressions : ∀ es : List Expr, KeepsDepth (expressions words subject es)
  | [] => by
    rw [expressions]
    exact .pure _
  | e :: rest => by
    rw [expressions]
    exact (keepsDepth_expression e).bind fun _ =>
      (keepsDepth_expressions rest).bind fun _ => .pure _

end

theorem keepsDepth_initializer : ∀ value : Option Expr,
    KeepsDepth (initializer words subject value)
  | none => .pure _
  | some e => (keepsDepth_expression words subject e).bind fun _ => .pure _

mutual

theorem keepsDepth_statement : ∀ s : Stmt, KeepsDepth (statement words subject s)
  | .declare type name value => by
    rw [statement]
    exact (keepsDepth_checkIdentifier words subject name).bind fun _ =>
      (keepsDepth_initializer words subject value).bind fun _ =>
        (keepsDepth_typeName type).bind fun _ => keepsDepth_line _
  | .assign left right => by
    rw [statement]
    exact (keepsDepth_expression words subject left).bind fun _ =>
      (keepsDepth_expression words subject right).bind fun _ => keepsDepth_line _
  | .condition test whenTrue whenFalse => by
    rw [statement]
    exact (keepsDepth_expression words subject test).bind fun _ =>
      (keepsDepth_line _).bind fun _ =>
        (keepsDepth_braced (keepsDepth_statements whenTrue)).bind fun _ =>
          .ite ((keepsDepth_line _).bind fun _ =>
            keepsDepth_braced (keepsDepth_statements whenFalse)) (.pure ())
  | .returns none => by
    rw [statement]
    exact keepsDepth_line _
  | .returns (some value) => by
    rw [statement]
    exact (keepsDepth_expression words subject value).bind fun _ => keepsDepth_line _
  | .expression value => by
    rw [statement]
    exact (keepsDepth_expression words subject value).bind fun _ => keepsDepth_line _
  | .foreign node => by
    rw [statement]
    exact keepsDepth_report _ _

theorem keepsDepth_statements : ∀ body : List Stmt, KeepsDepth (statements words subject body)
  | [] => by
    rw [statements]
    exact .pure ()
  | s :: rest => by
    rw [statements]
    exact (keepsDepth_statement s).bind fun _ => keepsDepth_statements rest

end

theorem keepsDepth_accessor (keyword : String) (a : Accessor) :
    KeepsDepth (accessor words subject keyword a) :=
  .ite ((keepsDepth_line keyword).bind fun _ =>
    keepsDepth_braced (keepsDepth_statements words subject a.body)) (.pure ())

theorem keepsDepth_parameters : ∀ ps : List Parameter, KeepsDepth (parameters words subject ps)
  | [] => .pure _
  | p :: rest =>
    (keepsDepth_checkIdentifier words subject p.name).bind fun _ =>
      (keepsDepth_typeName p.type).bind fun _ =>
        (keepsDepth_parameters rest).bind fun _ => .pure _

theorem keepsDepth_member (owner : String) : ∀ m : Member, KeepsDepth (member words owner m)
  | .field f =>
    (keepsDepth_checkIdentifier words _ f.name).bind fun _ =>
      (keepsDepth_initializer words _ f.initializer).bind fun _ =>
        (keepsDepth_typeName f.type).bind fun _ => keepsDepth_line _
  | .property p =>
    (keepsDepth_checkIdentifier words _ p.name).bind fun _ =>
      (keepsDepth_typeName p.type).bind fun _ => (keepsDepth_line _).bind fun _ =>
        keepsDepth_braced ((keepsDepth_accessor words _ "get" p.getter).bind fun _ =>
          keepsDepth_accessor words _ "set" p.setter)
  | .method m =>
    (keepsDepth_checkIdentifier words _ m.name).bind fun _ =>
      (keepsDepth_parameters words _ m.parameters).bind fun _ =>
        (keepsDepth_typeName m.returnType).bind fun _ => (keepsDepth_line _).bind fun _ =>
          keepsDepth_braced (keepsDepth_statements words _ m.body)
  | .foreign _ _ => keepsDepth_report _ _

theorem keepsDepth_classDecl (c : ClassDecl) : KeepsDepth (classDecl words c) := by
  have members : KeepsDepth (separated (c.members.map (member words c.name))) := by
    refine keepsDepth_separated _ fun action listed => ?_
    obtain ⟨m, _, rfl⟩ := List.mem_map.mp listed
    exact keepsDepth_member words c.name m
  exact (keepsDepth_checkIdentifier words _ c.name).bind fun _ =>
    (keepsDepth_line _).bind fun _ => keepsDepth_braced members

theorem keepsDepth_usings : ∀ imports : List String, KeepsDepth (usings words imports)
  | [] => .pure ()
  | _ :: rest =>
    (keepsDepth_checkIdentifiers words _ _).bind fun _ => (keepsDepth_line _).bind fun _ =>
      keepsDepth_usings rest

theorem keepsDepth_namespaceDecl (n : Namespace) : KeepsDepth (namespaceDecl words n) := by
  have types : KeepsDepth (separated (n.types.map (classDecl words))) := by
    refine keepsDepth_separated _ fun action listed => ?_
    obtain ⟨c, _, rfl⟩ := List.mem_map.mp listed
    exact keepsDepth_classDecl words c
  have block : KeepsDepth (do
      checkQualifiedName words n.name n.name
      line ("namespace " ++ n.name)
      braced (separated (n.types.map (classDecl words)))) :=
    (keepsDepth_checkIdentifiers words _ _).bind fun _ => (keepsDepth_line _).bind fun _ =>
      keepsDepth_braced types
  exact (keepsDepth_usings words n.imports).bind fun _ =>
    .ite ((keepsDepth_line "").bind fun _ => .ite types block) (.ite types block)

end CSharp

/-! ## The modules in TypeScript -/

namespace TypeScript

/-- However the action ends, the modules are what they were. -/
abbrev KeepsModules {α : Type} (action : Action α) : Prop :=
  Emit.Keeps TypeScriptEmitter.modules (fun modules s => s.modules = modules) action

variable (words : Vocabulary) (subject : String)

theorem keepsModules_report (cause : Cause) : KeepsModules (report cause subject) :=
  Emit.keeps_modify fun _ => rfl

theorem keepsModules_checkIdentifier (name : String) :
    KeepsModules (checkIdentifier name subject) :=
  .ite (.pure ()) (keepsModules_report _ _)

theorem keepsModules_isReserved (name : String) :
    KeepsModules (Emit.isReserved words .typescript name) :=
  Emit.keeps_isReserved words .typescript name fun _ => rfl

theorem keepsModules_checkBinding (name : String) :
    KeepsModules (checkBinding words name subject) :=
  (keepsModules_checkIdentifier subject name).bind fun _ =>
    .ite ((keepsModules_isReserved words name).bind fun _ =>
      .ite (keepsModules_report _ _) (.pure ())) (.pure ())

theorem keepsModules_checkBindings : ∀ names : List String,
    KeepsModules (checkBindings words subject names)
  | [] => .pure ()
  | name :: rest =>
    (keepsModules_checkBinding words subject name).bind fun _ => keepsModules_checkBindings rest

/-- An action that does without the reserved words has a run. -/
theorem Performs.keepsModules {α : Type} {words : ReservedWords} {action : Action α} {v : α}
    {visits : List Visit} (run : Performs words action v visits) : KeepsModules action := by
  rintro modules s rfl
  rw [show action.run.run s = (.ok v, s.after words visits) from run s]
  exact rfl

theorem keepsModules_referenceType (fullName : String) :
    KeepsModules (referenceType subject fullName) :=
  (show Performs ⟨[], []⟩ _ _ _ from performs_referenceType fullName).keepsModules

mutual

theorem keepsModules_typeNode : ∀ type : TypeRef, KeepsModules (typeNode subject type)
  | .mk fullName arguments => by
    rw [typeNode]
    exact .ite (.pure _) ((keepsModules_referenceType subject fullName).bind fun _ =>
      (keepsModules_typeNodes arguments).bind fun _ => .pure _)

theorem keepsModules_typeNodes : ∀ types : List TypeRef, KeepsModules (typeNodes subject types)
  | [] => by
    rw [typeNodes]
    exact .pure _
  | type :: rest => by
    rw [typeNodes]
    exact (keepsModules_typeNode type).bind fun _ =>
      (keepsModules_typeNodes rest).bind fun _ => .pure _

end

theorem keepsModules_literal : ∀ value : Literal, KeepsModules (literal subject value)
  | .null | .bool _ | .text _ => .pure _
  | .number _ =>
    .ite ((keepsModules_report _ _).bind fun _ => .pure _) (.ite (.pure _) (.pure _))

mutual

theorem keepsModules_expression : ∀ e : Expr, KeepsModules (expression words subject e)
  | .literal value => by
    rw [expression]
    exact keepsModules_literal subject value
  | .this => by
    rw [expression]
    exact .pure _
  | .field target name | .property target name => by
    rw [expression]
    exact (keepsModules_checkIdentifier subject name).bind fun _ =>
      (keepsModules_expression target).bind fun _ => .pure _
  | .variableRef name | .argumentRef name => by
    rw [expression]
    exact (keepsModules_checkBinding words subject name).bind fun _ => .pure _
  | .typeName type => by
    rw [expression]
    exact (keepsModules_referenceType subject _).bind fun _ => .pure _
  | .create type arguments => by
    rw [expression]
    exact (keepsModules_referenceType subject _).bind fun _ =>
      (keepsModules_typeNodes subject type.arguments).bind fun _ =>
        (keepsModules_expressions arguments).bind fun _ => .pure _
  | .invoke target method arguments => by
    rw [expression]
    exact (keepsModules_checkIdentifier subject method).bind fun _ =>
      (keepsModules_expression target).bind fun _ =>
        (keepsModules_expressions arguments).bind fun _ => .pure _
  | .binary left operator right => by
    rw [expression]
    exact (keepsModules_expression left).bind fun _ =>
      (keepsModules_expression right).bind fun _ => .pure _
  | .foreign node => by
    rw [expression]
    exact (keepsModules_report _ _).bind fun _ => .pure _

theorem keepsModules_expressions : ∀ es : List Expr, KeepsModules (expressions words subject es)
  | [] => by
    rw [expressions]
    exact .pure _
  | e :: rest => by
    rw [expressions]
    exact (keepsModules_expression e).bind fun _ =>
      (keepsModules_expressions rest).bind fun _ => .pure _

end

theorem keepsModules_optionalExpression : ∀ value : Option Expr,
    KeepsModules (optionalExpression words subject value)
  | none => .pure _
  | some e => (keepsModules_expression words subject e).bind fun _ => .pure _

mutual

theorem keepsModules_statement : ∀ s : Stmt, KeepsModules (statement words subject s)
  | .declare type name value => by
    rw [statement]
    exact (keepsModules_checkBinding words subject name).bind fun _ =>
      (keepsModules_typeNode subject type).bind fun _ =>
        (keepsModules_optionalExpression words subject value).bind fun _ => .pure _
  | .assign left right => by
    rw [statement]
    exact (keepsModules_expression words subject left).bind fun _ =>
      (keepsModules_expression words subject right).bind fun _ => .pure _
  | .condition test whenTrue whenFalse => by
    rw [statement]
    exact (keepsModules_expression words subject test).bind fun _ =>
      (keepsModules_statements whenTrue).bind fun _ =>
        (keepsModules_statements whenFalse).bind fun _ => .pure _
  | .returns value => by
    rw [statement]
    exact (keepsModules_optionalExpression words subject value).bind fun _ => .pure _
  | .expression value => by
    rw [statement]
    exact (keepsModules_expression words subject value).bind fun _ => .pure _
  | .foreign node => by
    rw [statement]
    exact (keepsModules_report _ _).bind fun _ => .pure _

theorem keepsModules_statements : ∀ body : List Stmt, KeepsModules (statements words subject body)
  | [] => by
    rw [statements]
    exact .pure _
  | s :: rest => by
    rw [statements]
    exact (keepsModules_statement s).bind fun _ =>
      (keepsModules_statements rest).bind fun _ => .pure _

end

theorem keepsModules_accessor (p : Property) (element : Access → Binding → List Command → Element)
    (a : Accessor) : KeepsModules (accessor words subject p element a) :=
  .ite ((keepsModules_typeNode subject p.type).bind fun _ =>
    (keepsModules_statements words subject a.body).bind fun _ => .pure _) (.pure _)

theorem keepsModules_parameters : ∀ ps : List Parameter, KeepsModules (parameters words subject ps)
  | [] => .pure _
  | p :: rest =>
    (keepsModules_checkBinding words subject p.name).bind fun _ =>
      (keepsModules_typeNode subject p.type).bind fun _ =>
        (keepsModules_parameters rest).bind fun _ => .pure _

theorem keepsModules_member (owner : String) : ∀ m : Member, KeepsModules (member words owner m)
  | .field f =>
    (keepsModules_checkIdentifier _ f.name).bind fun _ =>
      (keepsModules_typeNode _ f.type).bind fun _ =>
        (keepsModules_optionalExpression words _ f.initializer).bind fun _ => .pure _
  | .property p =>
    (keepsModules_checkIdentifier _ p.name).bind fun _ =>
      (keepsModules_accessor words _ p .getter p.getter).bind fun _ =>
        (keepsModules_accessor words _ p .setter p.setter).bind fun _ => .pure _
  | .method m =>
    (keepsModules_checkIdentifier _ m.name).bind fun _ =>
      (keepsModules_parameters words _ m.parameters).bind fun _ =>
        (keepsModules_typeNode _ m.returnType).bind fun _ =>
          (keepsModules_statements words _ m.body).bind fun _ => .pure _
  | .foreign _ _ => (keepsModules_report _ _).bind fun _ => .pure _

theorem keepsModules_members (owner : String) : ∀ ms : List Member,
    KeepsModules (members words owner ms)
  | [] => .pure _
  | m :: rest =>
    (keepsModules_member words owner m).bind fun _ =>
      (keepsModules_members owner rest).bind fun _ => .pure _

theorem keepsModules_classNodes : ∀ types : List ClassDecl, KeepsModules (classNodes words types)
  | [] => .pure _
  | c :: rest =>
    .bind ((keepsModules_checkBinding words _ c.name).bind fun _ =>
      (keepsModules_members words c.name c.members).bind fun _ => .pure _) fun _ =>
        (keepsModules_classNodes rest).bind fun _ => .pure _

theorem keepsModules_namespaceNodes (n : Namespace) : KeepsModules (namespaceNodes words n) :=
  (keepsModules_classNodes words n.types).bind fun _ =>
    .ite (.pure _) ((keepsModules_checkBindings words _ _).bind fun _ => .pure _)

end TypeScript

/-! ## Calls one after another -/

/-- What calls on one emitter leave of it. Each of them finds reserved words of its own, or none. -/
def leftBy {σ ι : Type} (run : Vocabulary → ι → StateM σ (Except Failure String)) (emitter : σ)
    (calls : List (Vocabulary × ι)) : σ :=
  calls.foldl (fun emitter call => ((run call.1 call.2).run emitter).2) emitter

namespace CSharpEmitter

/-- What an emitter of C# can be called for. -/
inductive Call where
  | space (n : Namespace)
  | alone (c : ClassDecl) (imports : List String)

/-- A call on an emitter of C#. -/
def call (words : Vocabulary) : Call → StateM CSharpEmitter (Except Failure String)
  | .space n => emitNamespace words n
  | .alone c imports => emitType words c imports

/-- An emission does not look at what it finds. -/
theorem emit_afresh (imports : List String) (action : CSharp.Action Unit)
    (emitter : CSharpEmitter) :
    (emit imports action).run emitter = (emit imports action).run {} := rfl

theorem call_afresh (words : Vocabulary) (c : Call) (emitter : CSharpEmitter) :
    (call words c).run emitter = (call words c).run {} := by
  cases c with
  | space n => exact emit_afresh _ _ emitter
  | alone c imports => exact emit_afresh _ _ emitter

/-- An emission that comes to its end has come back to the outermost level. -/
theorem depth_emit {imports : List String} {action : CSharp.Action Unit}
    (keeps : CSharp.KeepsDepth action) (emitter : CSharpEmitter)
    (finished : ∀ e, ((emit imports action).run emitter).1 ≠ .error (.noWords e)) :
    ((emit imports action).run emitter).2.depth = 0 := by
  have left := keeps 0 { imports } rfl
  simp only [emit, StateT.run_bind, StateT.run_set, StateT.run_get, pure_bind] at finished ⊢
  generalize action.run.run { imports } = result at left finished ⊢
  obtain ⟨result, s⟩ := result
  cases result with
  | ok v => exact left
  | error e => exact absurd rfl (finished e)

theorem depth_call (words : Vocabulary) (c : Call) (emitter : CSharpEmitter)
    (finished : ∀ e, ((call words c).run emitter).1 ≠ .error (.noWords e)) :
    ((call words c).run emitter).2.depth = 0 := by
  cases c with
  | space n => exact depth_emit (CSharp.keepsDepth_namespaceDecl words n) emitter finished
  | alone c imports => exact depth_emit (CSharp.keepsDepth_classDecl words c) emitter finished

end CSharpEmitter

namespace TypeScriptEmitter

/-- What an emitter of TypeScript can be called for. -/
inductive Call where
  | space (n : Namespace)
  | alone (c : ClassDecl)

/-- A call on an emitter of TypeScript. -/
def call (words : Vocabulary) : Call → StateM TypeScriptEmitter (Except Failure String)
  | .space n => emitNamespace words n
  | .alone c => emitType words c

/-- Of what an emission finds, it only looks at the modules. -/
theorem emit_afresh (localNamespace : String)
    (action : TypeScript.Action (List TypeScript.Declaration)) (emitter : TypeScriptEmitter) :
    (emit localNamespace action).run emitter =
      (emit localNamespace action).run (ofModules emitter.modules) := rfl

theorem call_afresh (words : Vocabulary) (c : Call) (emitter : TypeScriptEmitter) :
    (call words c).run emitter = (call words c).run (ofModules emitter.modules) := by
  cases c with
  | space n => exact emit_afresh _ _ emitter
  | alone c => exact emit_afresh _ _ emitter

/-- An emission leaves the modules as they were, also one that stops short. -/
theorem modules_emit {localNamespace : String}
    {action : TypeScript.Action (List TypeScript.Declaration)}
    (keeps : TypeScript.KeepsModules action) (emitter : TypeScriptEmitter) :
    ((emit localNamespace action).run emitter).2.modules = emitter.modules := by
  have left := keeps emitter.modules { modules := emitter.modules, localNamespace } rfl
  simp only [emit, StateT.run_bind, StateT.run_modify, StateT.run_get, pure_bind]
  generalize action.run.run { modules := emitter.modules, localNamespace } = result at left ⊢
  obtain ⟨result, s⟩ := result
  cases result with
  | ok v => exact left
  | error e => exact left

theorem modules_call (words : Vocabulary) (c : Call) (emitter : TypeScriptEmitter) :
    ((call words c).run emitter).2.modules = emitter.modules := by
  cases c with
  | space n => exact modules_emit (TypeScript.keepsModules_namespaceNodes words n) emitter
  | alone c => exact modules_emit (TypeScript.keepsModules_classNodes words [c]) emitter

theorem modules_leftBy (calls : List (Vocabulary × Call)) (emitter : TypeScriptEmitter) :
    (leftBy call emitter calls).modules = emitter.modules := by
  induction calls generalizing emitter with
  | nil => rfl
  | cons first rest ih => exact (ih _).trans (modules_call first.1 first.2 emitter)

end TypeScriptEmitter

/-- **Emitters can be used again.** Whatever was called on an emitter before, and however it ended,
the next call gives what it would give on a new emitter with the same options. And a call on an
emitter of C# that comes to its end, with a text or with defects, leaves the depth at nothing. -/
theorem emitters_reusable :
    (∀ (earlier : List (Vocabulary × CSharpEmitter.Call)) (words : Vocabulary)
      (c : CSharpEmitter.Call),
      let next := (CSharpEmitter.call words c).run (leftBy CSharpEmitter.call {} earlier)
      next.1 = ((CSharpEmitter.call words c).run {}).1 ∧
        ((∀ e, next.1 ≠ .error (.noWords e)) → next.2.depth = 0)) ∧
    ∀ (modules : Modules) (earlier : List (Vocabulary × TypeScriptEmitter.Call))
      (words : Vocabulary) (c : TypeScriptEmitter.Call),
      ((TypeScriptEmitter.call words c).run
          (leftBy TypeScriptEmitter.call (.ofModules modules) earlier)).1 =
        ((TypeScriptEmitter.call words c).run (.ofModules modules)).1 := by
  refine ⟨fun earlier words c => ⟨?_, ?_⟩, fun modules earlier words c => ?_⟩
  · rw [CSharpEmitter.call_afresh]
  · exact CSharpEmitter.depth_call words c _
  · have kept := TypeScriptEmitter.modules_leftBy earlier (.ofModules modules)
    rw [TypeScriptEmitter.call_afresh, kept]
    rfl

/-- A class with a name that is no identifier, so that the first name looked up among the reserved
words is that of its field. -/
def misnamed : ClassDecl where
  name := "1"
  members := [.field { name := "x", type := .plain "System.Object" }]

/-- A call for the class that does not get the reserved words stops inside the class. The next call
begins at the outermost level all the same, and ends there. -/
theorem emitters_reusable_abandoned :
    let abandoned := leftBy CSharpEmitter.call {} [(.error .notJson, .alone misnamed [])]
    abandoned.depth = 1 ∧
      let next := (CSharpEmitter.call (.ok .standard) (.space { name := "N" })).run abandoned
      next.1 = .ok "namespace N\n\x7b\n\x7d\n" ∧ next.2.depth = 0 := by
  have again := emitters_reusable.1 [(.error .notJson, .alone misnamed [])] (.ok .standard)
    (.space { name := "N" })
  have text : ((CSharpEmitter.call (.ok .standard) (.space { name := "N" })).run {}).1 =
      .ok "namespace N\n\x7b\n\x7d\n" := by
    rfl
  refine ⟨by decide +kernel, again.1.trans text, again.2 fun e failed => ?_⟩
  rw [again.1, text] at failed
  cases failed

end ServiceWriter

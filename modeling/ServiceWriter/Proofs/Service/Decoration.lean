import ServiceWriter.Proofs.Service.MemberNames
import ServiceWriter.Proofs.Defect.Merging
import Mathlib.Algebra.GroupWithZero.Nat

/-!
# The class that decorators make

A generated class has the members of its decorators, one decorator after another, whatever the service
is (`run_decorate`). Where members share names, the check refuses it with one defect for each of these
names (`run_checkNames`). What a generator says on the way is a line for each decorator, whether the
check passes or not (`Makes`), and to say it changes nothing else (`run_generateClass_verbose`).
-/

set_option autoImplicit false

namespace ServiceWriter

/-- A run goes on from where an action without failure leaves the log. -/
theorem Logged.run_bind {α β : Type} {action : Logged α} {next : α → Logged β} {v : α}
    {log log' : List String} (first : action.run.run log = (.ok v, log')) :
    (action >>= next).run.run log = (next v).run.run log' := by
  simp only [ExceptT.run_bind, StateT.run_bind, first]
  rfl

/-- A failure ends a run. -/
theorem Logged.run_bind_error {α β : Type} {action : Logged α} {next : α → Logged β}
    {failure : Failure} {log log' : List String}
    (first : action.run.run log = (.error failure, log')) :
    (action >>= next).run.run log = (.error failure, log') := by
  simp only [ExceptT.run_bind, StateT.run_bind, first]
  rfl

/-! ## Decorators -/

/-- The line that is said of a decorator when it has added its members to the class of a name. -/
def Decorator.line (name : String) (d : Decorator) : String :=
  d.name ++ ": added " ++ toString d.members.length ++ " member(s) to " ++ name

namespace Generator

/-- What a generator says of some decorators. -/
def said (g : Generator) (name : String) (decorators : List Decorator) : List String :=
  if g.verbose then decorators.map (Decorator.line name) else []

theorem said_cons (g : Generator) (name : String) (d : Decorator) (rest : List Decorator) :
    g.said name (d :: rest) = g.said name [d] ++ g.said name rest := by
  unfold said
  split <;> rfl

/-- **Decorators add their members**, one after another, and a line is said of each. -/
theorem run_decorate (g : Generator) (decorators : List Decorator) (c : ClassDecl)
    (log : List String) :
    (g.decorate decorators c).run.run log =
      (.ok { c with members := c.members ++ decorators.flatMap Decorator.members },
        log ++ g.said c.name decorators) := by
  induction decorators generalizing c log with
  | nil =>
    have nothing : g.said c.name [] = [] := by
      unfold said
      split <;> rfl
    rw [List.flatMap_nil, List.append_nil, nothing, List.append_nil]
    rfl
  | cons d rest ih =>
    have added : (d.decorate c).members.length - c.members.length = d.members.length := by
      rw [Decorator.decorate, List.length_append, Nat.add_sub_cancel_left]
    rw [List.flatMap_cons, ← List.append_assoc, said_cons, ← List.append_assoc, decorate, added]
    by_cases verbose : g.verbose = true
    · have line : g.said c.name [d] = [d.line c.name] := by
        rw [said, if_pos verbose]
        rfl
      rw [if_pos verbose, line]
      exact (Logged.run_bind rfl).trans (ih (d.decorate c) _)
    · have nothing : g.said c.name [d] = [] := by rw [said, if_neg verbose]
      rw [if_neg verbose, nothing, List.append_nil]
      exact ih (d.decorate c) log

/-! ## The check -/

/-- The message of a defect that is looked for holds the name that is shared. -/
theorem repeatedMember_of_key {name member other : String}
    (same : Defect.key ⟨.repeatedMember member, name⟩ = Defect.key ⟨.repeatedMember other, name⟩) :
    member = other := by
  have texts := (Prod.mk.inj (Defect.key_eq_iff_label.mp same)).2
  have messages : "Member " ++ ("\"" ++ member ++ "\"") ++ " is declared more than once" =
      "Member " ++ ("\"" ++ other ++ "\"") ++ " is declared more than once" :=
    (String.append_right_inj _).mp texts
  rwa [String.append_left_inj, String.append_right_inj, String.append_left_inj,
    String.append_right_inj] at messages

theorem nodup_keys_repeatedMembers (c : ClassDecl) :
    ((repeatedMembers c).map Defect.key).Nodup := by
  rw [repeatedMembers_eq, List.map_map]
  exact (nodup_secondOccurrences _).map_on fun _ _ _ _ same => repeatedMember_of_key same

/-- **A class is refused for the names that its members share**, with all the defects. -/
theorem run_checkNames (c : ClassDecl) (log : List String) :
    (checkNames c).run.run log =
      (if repeatedMembers c = [] then .ok () else .error (.rejected (repeatedMembers c)), log) := by
  have kept := Collector.defects_addAll_of_nodup (nodup_keys_repeatedMembers c)
  rw [checkNames, Collector.check, Collector.hasDefects, kept]
  by_cases nothing : repeatedMembers c = []
  · rw [nothing]
    rfl
  · have full : (!(repeatedMembers c).isEmpty) = true := by
      rw [Bool.not_eq_true', ← Bool.not_eq_true, List.isEmpty_iff]
      exact nothing
    rw [if_pos full, if_neg nothing]
    rfl

/-! ## The class -/

/-- The members of all decorators, in the order of the decorators. -/
def members (g : Generator) : List Member := g.decorators.flatMap Decorator.members

/-- The class of a name with these members. -/
def classNamed (g : Generator) (name : String) : ClassDecl where
  name := name
  access := .everyone
  isPartial := true
  members := g.members

/-- What is found wrong with it. -/
def found (g : Generator) (name : String) : List Defect :=
  if g.checkMemberNames then repeatedMembers (g.classNamed name) else []

theorem run_decorate_new (g : Generator) (name : String) (log : List String) :
    (g.decorate g.decorators { name, access := .everyone, isPartial := true }).run.run log =
      (.ok (g.classNamed name), log ++ g.said name g.decorators) :=
  run_decorate g g.decorators _ log

/-- What a generator makes of a service: the class, unless something is wrong with it. -/
theorem run_generateClass (g : Generator) (service : ServiceDescription) (log : List String) :
    (g.generateClass service).run.run log =
      (if g.found (serviceClassName service.name.shown) = [] then
          .ok (g.classNamed (serviceClassName service.name.shown))
        else .error (.rejected (g.found (serviceClassName service.name.shown))),
        log ++ g.said (serviceClassName service.name.shown) g.decorators) := by
  unfold generateClass
  -- what the name is does not matter, and it must not be evaluated
  generalize serviceClassName service.name.shown = name
  have checks := run_checkNames (g.classNamed name) (log ++ g.said name g.decorators)
  rw [Logged.run_bind (run_decorate_new g name log), found]
  by_cases checked : g.checkMemberNames = true
  · rw [if_pos checked, if_pos checked]
    by_cases nothing : repeatedMembers (g.classNamed name) = []
    · rw [if_pos nothing] at checks ⊢
      exact Logged.run_bind checks
    · rw [if_neg nothing] at checks ⊢
      exact Logged.run_bind_error checks
  · rw [if_neg checked, if_neg checked, if_pos rfl]
    rfl

/-- The names that members share, in the order of their second occurrences. -/
def sharedNames (g : Generator) : List String := secondOccurrences (g.members.map Member.name)

/-- What is found wrong is a defect for each name that members share, if this is checked. -/
theorem found_eq (g : Generator) (name : String) :
    g.found name =
      if g.checkMemberNames then g.sharedNames.map fun member => ⟨.repeatedMember member, name⟩
      else [] := by
  rw [found, repeatedMembers_eq]
  rfl

theorem found_ne_nil_iff {g : Generator} {name : String} :
    g.found name ≠ [] ↔ g.checkMemberNames = true ∧ g.sharedNames ≠ [] := by
  rw [found_eq]
  split
  · next checked => rw [Ne, List.map_eq_nil_iff, and_iff_right checked]
  · next unchecked => exact ⟨fun some => absurd rfl some, fun both => absurd both.1 unchecked⟩

/-- What a generator makes of its decorators, as the class of a name, and what it says, after a log. -/
structure Makes (g : Generator) (name : String) (log : List String)
    (outcome : Except Failure ClassDecl × List String) : Prop where
  /-- The class with all members, or a defect for each name that they share, if this is checked. -/
  made : outcome.1 =
    if g.checkMemberNames = true ∧ g.sharedNames ≠ [] then
      .error (.rejected (g.sharedNames.map fun member => ⟨.repeatedMember member, name⟩))
    else .ok { name, access := .everyone, isPartial := true, members := g.members }
  /-- Names are shared that occur twice or more. -/
  refused_iff : (∃ failure, outcome.1 = .error failure) ↔
    g.checkMemberNames = true ∧ ∃ member, 2 ≤ (g.members.map Member.name).count member
  /-- There is one defect for each of them. -/
  once : ∀ member, g.sharedNames.count member =
    if 2 ≤ (g.members.map Member.name).count member then 1 else 0
  /-- A line is said of each decorator, the class being refused or not. -/
  said : outcome.2 = log ++ if g.verbose then g.decorators.map (Decorator.line name) else []
  /-- The lines count all members. -/
  counted : (g.decorators.map fun d => d.members.length).sum = g.members.length

theorem makes_found (g : Generator) (name : String) (log : List String) :
    g.Makes name log
      (if g.found name = [] then .ok (g.classNamed name) else .error (.rejected (g.found name)),
        log ++ g.said name g.decorators) := by
  have made : (if g.found name = [] then .ok (g.classNamed name)
      else .error (.rejected (g.found name)) : Except Failure ClassDecl) =
      if g.checkMemberNames = true ∧ g.sharedNames ≠ [] then
        .error (.rejected (g.sharedNames.map fun member => ⟨.repeatedMember member, name⟩))
      else .ok (g.classNamed name) := by
    by_cases refused : g.checkMemberNames = true ∧ g.sharedNames ≠ []
    · rw [if_pos refused, if_neg (found_ne_nil_iff.mpr refused), found_eq, if_pos refused.1]
    · rw [if_neg refused, if_pos (not_ne_iff.mp (mt found_ne_nil_iff.mp refused))]
  refine ⟨made, ?_, count_secondOccurrences _, rfl, List.length_flatMap.symm⟩
  rw [← secondOccurrences_ne_nil_iff, made]
  split
  · next refused => exact iff_of_true ⟨_, rfl⟩ refused
  · next passed => exact iff_of_false (fun ⟨_, failed⟩ => nomatch failed) passed

/-- Whether it speaks does not matter for what a generator makes. -/
theorem run_generateClass_verbose (g : Generator) (verbose : Bool) (service : ServiceDescription)
    (log : List String) :
    ((({ g with verbose } : Generator).generateClass service).run.run log).1 =
      ((g.generateClass service).run.run log).1 := by
  rw [run_generateClass, run_generateClass]
  rfl

end Generator

/-- **Decorators make the class, and the check goes over all of it.** The members are those of the
decorators, which are given, or field, property and method of the ObjectToJson capability: they do not
depend on the service, which only names the class. `Makes` says when the class is refused, with what
defects, and what is said. It is made or refused alike by a generator that speaks and one that does
not. -/
theorem class_from_decorators (g : Generator) (service : ServiceDescription) (log : List String) :
    g.Makes (serviceClassName service.name.shown) log ((g.generateClass service).run.run log) ∧
      (∀ verbose, ((({ g with verbose } : Generator).generateClass service).run.run log).1 =
        ((g.generateClass service).run.run log).1) ∧
      (∀ given, (Decorator.append given).members = given) ∧
      ∀ given, (Decorator.objectToJson given).members =
        [.field (ObjectToJson.field given), .property (ObjectToJson.property given),
          .method (ObjectToJson.method given)] := by
  refine ⟨?_, fun verbose => g.run_generateClass_verbose verbose service log, fun _ => rfl,
    fun _ => rfl⟩
  rw [Generator.run_generateClass]
  exact g.makes_found _ log

end ServiceWriter

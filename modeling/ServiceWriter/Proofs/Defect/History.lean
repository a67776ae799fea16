import ServiceWriter.Proofs.Defect.Sharing

/-!
# Reports and what becomes of them

Whatever was done to a casebook, there are defects exactly if its collector has some to hand out, and
exactly then a report can be raised. To drop defects from a list that was handed out can be struck out
of any history: no later answer tells the difference (`answer_strike`).

The last report was raised after some of the steps (`View.exists_last_raise`). Its wording is that of the
defects at the time, and its defects are those of its collector, which may have taken in more since
then, until it was replaced (`reports_follow_collectors`).
-/

set_option autoImplicit false

namespace ServiceWriter

namespace Casebook

/-! ## Runs -/

/-- What a new casebook answers to a step that is taken after others. -/
def answer (earlier : List Step) (s : Step) : Answer := ((run {} earlier).step s).1

/-- What steps do, as far as it can be seen. -/
def View.run (v : View) (steps : List Step) : View := steps.foldl View.after v

theorem View.run_append (v : View) (steps later : List Step) :
    v.run (steps ++ later) = (v.run steps).run later :=
  List.foldl_append

/-- **Steps on a casebook** are steps on what can be seen of it. -/
theorem view_run {book : Casebook} (sound : book.IsSound) (steps : List Step) :
    (book.run steps).view = book.view.run steps ∧ (book.run steps).IsSound := by
  induction steps generalizing book with
  | nil => exact ⟨rfl, sound⟩
  | cons s steps ih =>
    obtain ⟨_, seen, sound'⟩ := view_step sound s
    have rest := ih sound'
    rw [seen] at rest
    exact rest

theorem answer_eq (earlier : List Step) (s : Step) :
    answer earlier s = (View.run {} earlier).answer s := by
  obtain ⟨seen, sound⟩ := view_run isSound_new earlier
  rw [answer, (view_step sound s).1, seen]
  rfl

/-- What cannot be seen when it is done is not seen later. -/
theorem answer_strike {unseen : Step} (same : ∀ v : View, v.after unseen = v)
    (earlier later : List Step) (s : Step) :
    answer (earlier ++ unseen :: later) s = answer (earlier ++ later) s := by
  rw [answer_eq, answer_eq, View.run_append, View.run_append]
  exact congrArg (fun v => View.answer (View.run v later) s) (same _)

/-- A list that was handed out. -/
def copyAt (book : Casebook) (copy : Nat) : Option (List Defect) :=
  book.copies[copy]?.map book.listAt

/-- What is dropped from a copy is gone there. -/
theorem copyAt_dropFrom {book : Casebook} (sound : book.IsSound) (copy : Nat) :
    (book.dropFrom copy).copyAt copy = (book.copyAt copy).map List.dropLast := by
  unfold copyAt dropFrom
  cases found : book.copies[copy]? with
  | none => simp [found]
  | some n =>
    have there := sound.copies n (List.mem_of_getElem? found)
    have dropped := listAt_change_self List.dropLast there
    change (book.copies[copy]?).map _ = _
    rw [found, Option.map_some, Option.map_some, Option.map_some, dropped]

/-! ## Between two reports -/

namespace View

variable {v : View}

/-- No report is raised in some steps: whenever one is asked for, there are no defects. -/
def IsQuiet (v : View) (steps : List Step) : Prop :=
  ∀ before after, steps = before ++ .raise :: after → (v.run before).collector.defects = []

theorem IsQuiet.head {steps : List Step} (quiet : v.IsQuiet (.raise :: steps)) :
    v.collector.defects = [] :=
  quiet [] steps rfl

theorem IsQuiet.tail {s : Step} {steps : List Step} (quiet : v.IsQuiet (s :: steps)) :
    (v.after s).IsQuiet steps :=
  fun before after split => quiet (s :: before) after (congrArg (s :: ·) split)

theorem isQuiet_nil : v.IsQuiet [] := by
  intro before after split
  simp at split

theorem IsQuiet.cons {s : Step} {steps : List Step}
    (first : s = .raise → v.collector.defects = []) (rest : (v.after s).IsQuiet steps) :
    v.IsQuiet (s :: steps) := by
  intro before after split
  cases before with
  | nil => exact first (List.cons.inj split).1
  | cons s' before =>
    obtain ⟨rfl, same⟩ := List.cons.inj split
    exact rest before after same

/-- A report that is asked for without defects is not raised. -/
theorem after_raise_of_empty (empty : v.collector.defects = []) : v.after .raise = v := by
  rw [after, empty]
  rfl

/-- To raise a report leaves the collector alone. -/
theorem collector_after_raise (v : View) : (v.after .raise).collector = v.collector := by
  rw [after]
  split <;> rfl

/-- Some steps raise no report, or there is a last one that they raise. -/
theorem exists_last_raise (v : View) (steps : List Step) :
    v.IsQuiet steps ∨ ∃ earlier later, steps = earlier ++ .raise :: later ∧
      (v.run earlier).collector.defects ≠ [] ∧ (v.run (earlier ++ [.raise])).IsQuiet later := by
  induction steps generalizing v with
  | nil => exact .inl isQuiet_nil
  | cons s steps ih =>
    rcases ih (v.after s) with quiet | ⟨earlier, later, split, raised, quiet⟩
    · by_cases first : s = .raise ∧ v.collector.defects ≠ []
      · obtain ⟨rfl, raised⟩ := first
        exact .inr ⟨[], steps, rfl, raised, quiet⟩
      · refine .inl (quiet.cons fun raise => Classical.byContradiction fun raised => ?_)
        exact first ⟨raise, raised⟩
    · exact .inr ⟨s :: earlier, later, congrArg (s :: ·) split, raised, quiet⟩

/-- Where no report is raised, there is none afterwards if there was none. -/
theorem report_eq_none {steps : List Step} (quiet : v.IsQuiet steps) (none : v.report = none) :
    (v.run steps).report = .none := by
  induction steps generalizing v with
  | nil => exact none
  | cons s steps ih =>
    refine ih quiet.tail ?_
    cases s with
    | raise => rw [after_raise_of_empty quiet.head, none]
    | renew => rw [after, renew, none, Option.map_none]
    | add d => exact none
    | hasDefects | defects | dropFrom | dropFromCopy | lastReport => exact none

/-- A report whose collector was replaced stays as it is. -/
theorem report_of_closed {steps : List Step} {wording : String} {defects : List Defect}
    (quiet : v.IsQuiet steps) (closed : v.report = some ⟨wording, some defects⟩) :
    (v.run steps).report = some ⟨wording, some defects⟩ := by
  induction steps generalizing v with
  | nil => exact closed
  | cons s steps ih =>
    refine ih quiet.tail ?_
    cases s with
    | raise => rw [after_raise_of_empty quiet.head, closed]
    | renew => rw [after, renew, closed]; rfl
    | add d => exact closed
    | hasDefects | defects | dropFrom | dropFromCopy | lastReport => exact closed

end View

/-- Whether a step opens a new collector. -/
def Step.isRenewal : Step → Bool
  | .renew => true
  | _ => false

/-- The steps before a new collector is opened. -/
def untilRenewal (steps : List Step) : List Step := steps.takeWhile fun s => !s.isRenewal

namespace View

variable {v : View}

/-- **A report from the open collector** keeps its wording and has the defects of the collector, up to
the step that replaces it. -/
theorem answer_lastReport {steps : List Step} {wording : String} (quiet : v.IsQuiet steps)
    (opened : v.report = some ⟨wording, none⟩) :
    (v.run steps).answer .lastReport =
      .reported wording (v.run (untilRenewal steps)).collector.defects := by
  induction steps generalizing v with
  | nil =>
    rw [answer, run, List.foldl_nil, opened]
    rfl
  | cons s steps ih =>
    cases s with
    | renew =>
      have closed : (v.after .renew).report = some ⟨wording, some v.collector.defects⟩ := by
        rw [after, renew, opened]
        rfl
      have kept := report_of_closed quiet.tail closed
      rw [answer, run, List.foldl_cons, ← run, kept]
      rfl
    | raise =>
      have same := congrArg View.report (after_raise_of_empty quiet.head)
      exact ih quiet.tail (same.trans opened)
    | add d => exact ih quiet.tail opened
    | hasDefects | defects | dropFrom | dropFromCopy | lastReport => exact ih quiet.tail opened

/-- A collector that is not replaced loses no defects. -/
theorem defects_prefix (v : View) (steps : List Step) :
    v.collector.defects <+: (v.run (untilRenewal steps)).collector.defects := by
  induction steps generalizing v with
  | nil => exact List.prefix_rfl
  | cons s steps ih =>
    cases s with
    | renew => exact List.prefix_rfl
    | add d =>
      have grown : v.collector.defects <+: (v.collector.add d).defects := by
        unfold Collector.add
        split
        · exact List.prefix_rfl
        · exact List.prefix_append _ _
      exact grown.trans (ih (v.after (.add d)))
    | raise => exact collector_after_raise v ▸ ih (v.after .raise)
    | hasDefects | defects | dropFrom | dropFromCopy | lastReport => exact ih v

end View

/-- Where no report is raised, the last one is still the one from before. -/
theorem report_run {book : Casebook} {steps : List Step} (sound : book.IsSound)
    (quiet : book.view.IsQuiet steps) : (book.run steps).report = book.report := by
  induction steps generalizing book with
  | nil => rfl
  | cons s steps ih =>
    obtain ⟨_, seen, sound'⟩ := view_step sound s
    refine (ih sound' (seen ▸ quiet.tail)).trans ?_
    cases s with
    | raise =>
      have empty : book.held.isEmpty = true := List.isEmpty_iff.mpr quiet.head
      rw [step, if_pos empty]
    | add d => rw [step, add]; split <;> rfl
    | dropFrom copy => rw [step, dropFrom]; split <;> rfl
    | dropFromCopy => rw [step, dropFrom]; split <;> rfl
    | renew | hasDefects | defects | lastReport => rfl

/-! ## Histories -/

/-- No report is raised in some steps, taken after earlier ones. -/
def RaisesNone (earlier later : List Step) : Prop :=
  ∀ before after, later = before ++ .raise :: after → answer (earlier ++ before) .raise = .quiet

theorem answer_raise_eq_quiet_iff {steps : List Step} :
    answer steps .raise = .quiet ↔ (View.run {} steps).collector.defects = [] := by
  rw [answer_eq, View.answer, ← List.isEmpty_iff]
  split
  · next empty => exact iff_of_true rfl empty
  · next full => exact iff_of_false (fun quiet => by cases quiet) full

theorem exists_raised_iff {steps : List Step} :
    (∃ wording thrown, answer steps .raise = .raised wording thrown) ↔
      (View.run {} steps).collector.defects ≠ [] := by
  rw [answer_eq, View.answer, ne_eq, ← List.isEmpty_iff]
  split
  · next empty => exact iff_of_false (fun ⟨_, _, raised⟩ => by cases raised) (not_not_intro empty)
  · next full => exact iff_of_true ⟨_, _, rfl⟩ full

theorem raisesNone_iff {earlier later : List Step} :
    RaisesNone earlier later ↔ (View.run {} earlier).IsQuiet later := by
  simp only [RaisesNone, View.IsQuiet, answer_raise_eq_quiet_iff, View.run_append]

/-- The last report is raised between earlier and later steps. `thrown` are the defects it is raised
for, and `now` those it has in the end. -/
structure LastReport (earlier later : List Step) (thrown now : List Defect) : Prop where
  /-- When it is raised, it has the defects of the collector, and their wording. -/
  held : answer earlier .defects = .list thrown
  raised : answer earlier .raise = .raised (Defect.report thrown) thrown
  last : RaisesNone (earlier ++ [.raise]) later
  /-- In the end it still has that wording. -/
  standing : answer (earlier ++ .raise :: later) .lastReport = .reported (Defect.report thrown) now
  /-- Its defects are in the list that the collector had, and has, be it open or not. -/
  shared : (run {} (earlier ++ .raise :: later)).listAt (run {} earlier).current.list = now
  /-- They are what the collector last handed out, or would hand out. -/
  followed : answer (earlier ++ .raise :: untilRenewal later) .defects = .list now
  /-- They start with those it was raised for. -/
  grown : thrown <+: now

/-- Where there are defects, a report is raised. -/
theorem View.run_raise {earlier : List Step} (raised : (View.run {} earlier).collector.defects ≠ [])
    (later : List Step) :
    View.run {} (earlier ++ .raise :: later) = (View.run {} earlier).raise.run later := by
  have full : ¬ (View.run {} earlier).collector.defects.isEmpty = true :=
    mt List.isEmpty_iff.mp raised
  rw [View.run_append, View.run, List.foldl_cons, View.after, if_neg full]
  rfl

/-- The last report knows the list of the collector that it was raised from by its number. -/
theorem report_of_quiet {earlier later : List Step}
    (raised : (View.run {} earlier).collector.defects ≠ [])
    (quiet : (View.run {} earlier).raise.IsQuiet later) :
    (run {} (earlier ++ .raise :: later)).report =
      some ⟨(run {} earlier).current.list, Defect.report (View.run {} earlier).collector.defects⟩ := by
  obtain ⟨seen, sound⟩ := view_run isSound_new earlier
  have held : (run {} earlier).held = (View.run {} earlier).collector.defects := held_of_view seen
  have full : ¬ (run {} earlier).held.isEmpty = true := by
    rw [held, List.isEmpty_iff]
    exact raised
  have seen' : (run {} earlier).raise.view = (View.run {} earlier).raise :=
    (view_raise sound).1.trans (congrArg View.raise seen)
  have run_eq : run {} (earlier ++ .raise :: later) =
      ((run {} earlier).step .raise).2.run later := by
    rw [run, List.foldl_append]
    rfl
  rw [run_eq, step, if_neg full, report_run (view_raise sound).2 (seen' ▸ quiet), raise, held]

theorem lastReport_of_quiet {earlier later : List Step}
    (raised : (View.run {} earlier).collector.defects ≠ [])
    (quiet : (View.run {} (earlier ++ [.raise])).IsQuiet later) :
    ∃ thrown now, LastReport earlier later thrown now := by
  have last := raisesNone_iff.mpr quiet
  rw [View.run_raise raised []] at quiet
  have standing : answer (earlier ++ .raise :: later) .lastReport =
      .reported (Defect.report (View.run {} earlier).collector.defects)
        ((View.run {} earlier).raise.run (untilRenewal later)).collector.defects := by
    rw [answer_eq, View.run_raise raised]
    exact View.answer_lastReport quiet rfl
  have full : ¬ (View.run {} earlier).collector.defects.isEmpty = true :=
    mt List.isEmpty_iff.mp raised
  refine ⟨_, _, {
    held := answer_eq earlier .defects
    raised := by rw [answer_eq, View.answer, if_neg full]
    last := last
    standing := standing
    shared := ?_
    followed := by rw [answer_eq, View.run_raise raised]; rfl
    grown := (View.run {} earlier).raise.defects_prefix later }⟩
  rw [answer, step, lastReport, report_of_quiet raised quiet] at standing
  exact (Answer.reported.inj standing).2

/-- **Reports follow their collectors.** After any steps, there are defects exactly if some are handed
out, and exactly if a report is raised. A defect that is dropped from a list that was handed out is gone
there, and no later answer tells whether that was done. If any report was raised, there is a last one,
and `LastReport` says what it is. -/
theorem reports_follow_collectors (steps : List Step) :
    ((answer steps .hasDefects = .flag true ↔ answer steps .defects ≠ .list []) ∧
      (answer steps .defects ≠ .list [] ↔
        ∃ wording thrown, answer steps .raise = .raised wording thrown)) ∧
    (∀ copy, (run {} (steps ++ [.dropFrom copy])).copyAt copy =
        ((run {} steps).copyAt copy).map List.dropLast ∧
      ∀ later s, answer (steps ++ .dropFrom copy :: later) s = answer (steps ++ later) s) ∧
    (∀ later s, answer (steps ++ .dropFromCopy :: later) s = answer (steps ++ later) s) ∧
    (answer steps .lastReport = .quiet ∧ RaisesNone [] steps ∨
      ∃ earlier later thrown now,
        steps = earlier ++ .raise :: later ∧ LastReport earlier later thrown now) := by
  have flag : answer steps .hasDefects = .flag true ↔
      (View.run {} steps).collector.defects ≠ [] := by
    rw [answer_eq, View.answer, Answer.flag.injEq, Collector.hasDefects, Bool.not_eq_true',
      ← Bool.not_eq_true, List.isEmpty_iff]
  have list : answer steps .defects ≠ .list [] ↔
      (View.run {} steps).collector.defects ≠ [] := by
    rw [answer_eq, View.answer, ne_eq, ne_eq, Answer.list.injEq]
  refine ⟨⟨flag.trans list.symm, list.trans exists_raised_iff.symm⟩, fun copy => ?_,
    answer_strike (fun _ => rfl) steps, ?_⟩
  · refine ⟨?_, answer_strike (fun _ => rfl) steps⟩
    have run_eq : run {} (steps ++ [.dropFrom copy]) = (run {} steps).dropFrom copy := by
      rw [run, List.foldl_append]
      rfl
    rw [run_eq, copyAt_dropFrom (view_run isSound_new steps).2]
  · rcases View.exists_last_raise {} steps with quiet | ⟨earlier, later, split, raised, quiet⟩
    · refine .inl ⟨?_, raisesNone_iff.mpr quiet⟩
      rw [answer_eq, View.answer, View.report_eq_none quiet rfl]
    · obtain ⟨thrown, now, last⟩ := lastReport_of_quiet raised quiet
      exact .inr ⟨earlier, later, thrown, now, split, last⟩

end Casebook

end ServiceWriter

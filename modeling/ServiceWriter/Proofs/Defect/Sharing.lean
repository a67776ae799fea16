import ServiceWriter.Defect.Casebook

/-!
# What lists share

Seen from outside, a casebook is an open collector and a last report, whose defects are those of the
open collector until that is replaced (`View`). No list that is handed out is the list of a collector
(`IsSound`), so that a step on the casebook is a step on what can be seen of it (`view_step`). There,
to change a list that was handed out is no step at all (`view_dropFrom`).
-/

set_option autoImplicit false

namespace ServiceWriter

namespace Casebook

/-! ## Lists by number -/

section

variable {book : Casebook} {n m : Nat}

theorem listAt_append (lists : List (List Defect)) (there : n < book.lists.length) :
    ((book.lists ++ lists)[n]?).getD [] = book.listAt n := by
  rw [listAt, List.getElem?_append_left there]

theorem listAt_change_self (f : List Defect → List Defect) (there : n < book.lists.length) :
    (book.change n f).listAt n = f (book.listAt n) := by
  simp [listAt, change, there]

theorem listAt_change_of_ne (f : List Defect → List Defect) (apart : n ≠ m) :
    (book.change n f).listAt m = book.listAt m := by
  simp [listAt, change, apart]

theorem length_change (f : List Defect → List Defect) :
    (book.change n f).lists.length = book.lists.length :=
  List.length_modify ..

/-- A list that is there and was not handed out. -/
structure IsOwn (book : Casebook) (n : Nat) : Prop where
  there : n < book.lists.length
  kept : n ∉ book.copies

/-- What steps keep of a casebook: its collector and its report have lists that were never handed
out, and the keys of the collector are those of its defects. -/
structure IsSound (book : Casebook) : Prop where
  current : book.IsOwn book.current.list
  report : ∀ r, book.report = some r → book.IsOwn r.source
  copies : ∀ n ∈ book.copies, n < book.lists.length
  keys : book.current.keys = book.held.map Defect.key

theorem isSound_new : IsSound {} where
  current := ⟨Nat.one_pos, List.not_mem_nil⟩
  report _ none := by cases none
  copies _ copy := by cases copy
  keys := rfl

/-- A new list is none of those that were there, and those stay as they are. -/
theorem IsOwn.handOut (own : book.IsOwn n) :
    book.handOut.IsOwn n ∧ book.handOut.listAt n = book.listAt n := by
  refine ⟨⟨?_, ?_⟩, listAt_append _ own.there⟩
  · rw [Casebook.handOut, List.length_append]
    exact Nat.lt_add_right _ own.there
  · have apart : n ≠ book.lists.length := Nat.ne_of_lt own.there
    simp [Casebook.handOut, own.kept, apart]

/-- What is done to a copy is not done to a list that was never handed out. -/
theorem IsOwn.dropFrom (own : book.IsOwn n) (copy : Nat) :
    (book.dropFrom copy).IsOwn n ∧ (book.dropFrom copy).listAt n = book.listAt n := by
  unfold Casebook.dropFrom
  split
  · next m found =>
    have apart : m ≠ n := fun same => own.kept (same ▸ List.mem_of_getElem? found)
    exact ⟨⟨(length_change _).symm ▸ own.there, own.kept⟩, listAt_change_of_ne _ apart⟩
  · exact ⟨own, rfl⟩

end

/-! ## What can be seen -/

/-- A report as it can be seen. Its defects are those of the open collector, or, once that collector
was replaced, the ones it had at last. -/
structure Standing where
  wording : String
  closed : Option (List Defect)

/-- A casebook as it can be seen: the open collector and the last report. -/
structure View where
  collector : Collector := .empty
  report : Option Standing := none

namespace View

/-- The defects of a report. -/
def defectsOf (v : View) (r : Standing) : List Defect := r.closed.getD v.collector.defects

/-- The collector is replaced, and a report from it keeps the defects it has. -/
def renew (v : View) : View where
  report := v.report.map fun r => { r with closed := some (v.defectsOf r) }

/-- A report from the collector. -/
def raise (v : View) : View :=
  { v with report := some ⟨Defect.report v.collector.defects, none⟩ }

/-- What a step does, as far as it can be seen. -/
def after (v : View) : Step → View
  | .renew => v.renew
  | .add d => { v with collector := v.collector.add d }
  | .raise => if v.collector.defects.isEmpty then v else v.raise
  | .hasDefects | .defects | .dropFrom _ | .dropFromCopy | .lastReport => v

/-- What a step answers. -/
def answer (v : View) : Step → Answer
  | .renew => .count 0
  | .add d => .count (v.collector.add d).defects.length
  | .hasDefects => .flag v.collector.hasDefects
  | .defects => .list v.collector.defects
  | .dropFrom _ | .dropFromCopy => .count v.collector.defects.length
  | .raise =>
    if v.collector.defects.isEmpty then .quiet
    else .raised (Defect.report v.collector.defects) v.collector.defects
  | .lastReport =>
    match v.report with
    | none => .quiet
    | some r => .reported r.wording (v.defectsOf r)

end View

/-- What can be seen of a casebook. -/
def view (book : Casebook) : View where
  collector := ⟨book.held⟩
  report := book.report.map fun r =>
    ⟨r.wording, if r.source = book.current.list then none else some (book.listAt r.source)⟩

/-! ## Steps -/

section

variable {book : Casebook}

/-- The defects of a report are those that can be seen. -/
theorem defectsOf_view (r : Report) :
    book.view.defectsOf
        ⟨r.wording, if r.source = book.current.list then none else some (book.listAt r.source)⟩ =
      book.listAt r.source := by
  unfold View.defectsOf
  split
  · next same => rw [same]; rfl
  · rfl

/-- What leaves the lists alone that were never handed out cannot be seen. -/
theorem view_eq_of_own {book' : Casebook} (sound : book.IsSound)
    (current : book'.current = book.current) (report : book'.report = book.report)
    (copies : ∀ n ∈ book'.copies, n < book'.lists.length)
    (own : ∀ n, book.IsOwn n → book'.IsOwn n ∧ book'.listAt n = book.listAt n) :
    book'.view = book.view ∧ book'.IsSound := by
  have held : book'.held = book.held := by
    rw [Casebook.held, current, (own _ sound.current).2, Casebook.held]
  constructor
  · rw [view, view, held, current, report]
    congr 1
    apply Option.map_congr
    intro r given
    rw [(own _ (sound.report r given)).2]
  · exact {
      current := current ▸ (own _ sound.current).1
      report := fun r given => (own _ (sound.report r (report ▸ given))).1
      copies := copies
      keys := by rw [current, held, sound.keys] }

theorem view_handOut (sound : book.IsSound) :
    book.handOut.view = book.view ∧ book.handOut.IsSound := by
  refine view_eq_of_own sound rfl rfl ?_ fun n own => own.handOut
  intro n copy
  rw [handOut, List.length_append, List.length_singleton]
  rcases List.mem_append.mp copy with copy | copy
  · exact Nat.lt_succ_of_lt (sound.copies n copy)
  · exact Nat.lt_succ_of_le (Nat.le_of_eq (List.mem_singleton.mp copy))

theorem view_dropFrom (sound : book.IsSound) (copy : Nat) :
    (book.dropFrom copy).view = book.view ∧ (book.dropFrom copy).IsSound := by
  have same : (book.dropFrom copy).current = book.current ∧
      (book.dropFrom copy).report = book.report ∧
      (book.dropFrom copy).copies = book.copies ∧
      (book.dropFrom copy).lists.length = book.lists.length := by
    unfold dropFrom
    split
    · exact ⟨rfl, rfl, rfl, length_change _⟩
    · exact ⟨rfl, rfl, rfl, rfl⟩
  obtain ⟨current, report, copies, length⟩ := same
  refine view_eq_of_own sound current report ?_ fun n own => own.dropFrom copy
  rw [copies, length]
  exact sound.copies

theorem view_renew (sound : book.IsSound) :
    book.renew.view = book.view.renew ∧ book.renew.IsSound := by
  have held : book.renew.held = [] := by
    simp [Casebook.held, listAt, renew]
  have longer : book.renew.lists.length = book.lists.length + 1 := by
    rw [renew, List.length_append, List.length_singleton]
  constructor
  · rw [view, View.renew, held, view]
    congr 1
    rw [Option.map_map]
    apply Option.map_congr
    intro r given
    have there := (sound.report r given).there
    have apart : r.source ≠ book.renew.current.list := Nat.ne_of_lt there
    have same : book.renew.listAt r.source = book.listAt r.source := listAt_append _ there
    rw [Function.comp_apply, ← view, defectsOf_view, if_neg apart, same]
  · have fresh : book.lists.length ∉ book.copies := fun copy =>
      absurd (sound.copies _ copy) (Nat.lt_irrefl _)
    exact {
      current := ⟨longer ▸ Nat.lt_succ_self _, fresh⟩
      report := fun r given =>
        ⟨longer ▸ Nat.lt_succ_of_lt (sound.report r given).there, (sound.report r given).kept⟩
      copies := fun n copy => longer ▸ Nat.lt_succ_of_lt (sound.copies n copy)
      keys := by rw [held]; rfl }

/-- A key is known exactly if a defect with that key is there. -/
theorem contains_keys (sound : book.IsSound) (d : Defect) :
    book.current.keys.contains d.key = Collector.has ⟨book.held⟩ d := by
  rw [sound.keys, Collector.has, List.contains_eq_any_beq, List.any_map]
  exact congrArg _ (funext fun other => Bool.beq_comm)

theorem view_add (sound : book.IsSound) (d : Defect) :
    (book.add d).view = { book.view with collector := book.view.collector.add d } ∧
      (book.add d).IsSound := by
  unfold add
  rw [contains_keys sound]
  by_cases known : Collector.has ⟨book.held⟩ d = true
  · rw [if_pos known, Collector.add, if_pos (show book.view.collector.has d = true from known)]
    exact ⟨rfl, sound⟩
  rw [if_neg known, Collector.add, if_neg (show ¬ book.view.collector.has d = true from known)]
  have length : (book.change book.current.list (· ++ [d])).lists.length = book.lists.length :=
    length_change _
  have held := listAt_change_self (· ++ [d]) sound.current.there
  constructor
  · rw [view, view, Casebook.held]
    congr 1
    · exact congrArg _ held
    · apply Option.map_congr
      intro r given
      -- the list of a report is the one that grew, or stays as it is
      by_cases same : r.source = book.current.list
      · rw [if_pos same, if_pos same]
      · rw [if_neg same, if_neg same]
        exact congrArg _ (congrArg _ (listAt_change_of_ne _ (Ne.symm same)))
  · exact {
      current := ⟨length.symm ▸ sound.current.there, sound.current.kept⟩
      report := fun r given =>
        ⟨length.symm ▸ (sound.report r given).there, (sound.report r given).kept⟩
      copies := fun n copy => length.symm ▸ sound.copies n copy
      keys := by
        have keys : book.current.keys ++ [d.key] = (book.held ++ [d]).map Defect.key := by
          rw [sound.keys, List.map_append]
          rfl
        exact keys.trans (congrArg _ held.symm) }

theorem view_raise (sound : book.IsSound) :
    book.raise.view = book.view.raise ∧ book.raise.IsSound := by
  constructor
  · rw [view, View.raise, raise, Option.map_some, if_pos rfl]
    rfl
  · have own : book.raise.IsOwn book.current.list := ⟨sound.current.there, sound.current.kept⟩
    exact {
      current := own
      report := fun r given => Option.some.inj given ▸ own
      copies := sound.copies
      keys := sound.keys }

theorem held_of_view {v : View} (seen : book.view = v) : book.held = v.collector.defects :=
  congrArg (fun v => v.collector.defects) seen

/-- **A step on a casebook** is a step on what can be seen of it. -/
theorem view_step (sound : book.IsSound) (s : Step) :
    (book.step s).1 = book.view.answer s ∧ (book.step s).2.view = book.view.after s ∧
      (book.step s).2.IsSound := by
  cases s with
  | renew => exact ⟨rfl, view_renew sound⟩
  | add d =>
    have added := view_add sound d
    exact ⟨congrArg (Answer.count ∘ List.length) (held_of_view added.1), added⟩
  | hasDefects => exact ⟨rfl, rfl, sound⟩
  | defects => exact ⟨rfl, view_handOut sound⟩
  | dropFrom copy =>
    have dropped := view_dropFrom sound copy
    exact ⟨congrArg (Answer.count ∘ List.length) (held_of_view dropped.1), dropped⟩
  | dropFromCopy =>
    have handed := view_handOut sound
    have dropped := view_dropFrom handed.2 book.copies.length
    rw [handed.1] at dropped
    exact ⟨congrArg (Answer.count ∘ List.length) (held_of_view dropped.1), dropped⟩
  | raise =>
    unfold step View.answer View.after
    by_cases none : book.held.isEmpty = true
    · rw [if_pos none, if_pos (show book.view.collector.defects.isEmpty = true from none),
        if_pos (show book.view.collector.defects.isEmpty = true from none)]
      exact ⟨rfl, rfl, sound⟩
    · rw [if_neg none, if_neg (show ¬ book.view.collector.defects.isEmpty = true from none),
        if_neg (show ¬ book.view.collector.defects.isEmpty = true from none)]
      exact ⟨rfl, view_raise sound⟩
  | lastReport =>
    refine ⟨?_, rfl, sound⟩
    change book.lastReport = book.view.answer .lastReport
    unfold lastReport View.answer
    cases given : book.report with
    | none => simp only [view, given, Option.map_none]
    | some r =>
      have seen : book.view.defectsOf _ = book.listAt r.source := defectsOf_view r
      simp only [view, given, Option.map_some] at seen ⊢
      rw [seen]

end

end Casebook

end ServiceWriter

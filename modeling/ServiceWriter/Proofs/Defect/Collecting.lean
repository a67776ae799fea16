import ServiceWriter.Defect.Collector
import Mathlib.Data.List.Nodup
import Mathlib.Data.Nat.Init

/-!
# What a collector keeps

A collector keeps the first of several defects with one key (`Collector.defects_addAll`). The key
joins code, subject and message with U+0000. For subjects without that character it tells apart what
differs in one of the three (`Defect.key_eq_iff`), so that a collector keeps exactly the first
occurrences of codes, subjects and messages (`Collector.defects_addAll_empty`).

What is kept of some of the defects only is what is kept of all, restricted to these, as long as
code, subject and message decide which defects they are (`filter_firstReports`).
-/

set_option autoImplicit false

namespace ServiceWriter

/-! ## Keys -/

/-- A text without U+0000, at which a key can be taken apart. -/
def IsPlain (text : String) : Prop := '\x00' ∉ text.toList

instance (text : String) : Decidable (IsPlain text) := inferInstanceAs (Decidable (_ ∉ _))

namespace Defect

/-- What two defects must have in common to be reported as one: code, subject and message. -/
def identity (d : Defect) : DefectCode × String × String := (d.code, d.subject, d.message)

theorem ofName_injective {c c' : DefectCode} (same : c.name = c'.name) : c = c' := by
  cases c <;> cases c' <;> first | rfl | exact absurd same (by decide)

theorem isPlain_name (c : DefectCode) : IsPlain c.name := by
  cases c <;> decide

/-- What stands before a separator that it does not hold, and what stands behind it, can be told from
the whole. -/
theorem append_cons_inj {α : Type} {separator : α} {a a' b b' : List α} (free : separator ∉ a)
    (free' : separator ∉ a') (same : a ++ separator :: b = a' ++ separator :: b') :
    a = a' ∧ b = b' := by
  induction a generalizing a' with
  | nil =>
    cases a' with
    | nil => exact ⟨rfl, (List.cons.inj same).2⟩
    | cons x a' => exact absurd (List.mem_cons.mpr (.inl (List.cons.inj same).1)) free'
  | cons x a ih =>
    cases a' with
    | nil => exact absurd (List.mem_cons.mpr (.inl (List.cons.inj same).1.symm)) free
    | cons x' a' =>
      obtain ⟨rfl, rest⟩ := List.cons.inj same
      obtain ⟨rfl, rfl⟩ := ih (mt (List.mem_cons_of_mem x) free) (mt (List.mem_cons_of_mem x) free') rest
      exact ⟨rfl, rfl⟩

/-- Two texts without U+0000 that are followed by it are told apart in what they start. -/
theorem append_nul_inj {a a' b b' : String} (plain : IsPlain a)
    (plain' : IsPlain a') (same : a ++ "\x00" ++ b = a' ++ "\x00" ++ b') :
    a = a' ∧ b = b' := by
  have chars : a.toList ++ '\x00' :: b.toList = a'.toList ++ '\x00' :: b'.toList := by
    simpa using congrArg String.toList same
  obtain ⟨heads, tails⟩ := append_cons_inj plain plain' chars
  exact ⟨String.toList_injective heads, String.toList_injective tails⟩

/-- Defects that agree in code, subject and message have one key. -/
theorem key_eq_of_identity {d e : Defect} (same : d.identity = e.identity) : d.key = e.key := by
  simp only [identity, Prod.mk.injEq] at same
  rw [key, key, same.1, same.2.1, same.2.2]

/-- **Keys tell apart what differs in code, subject or message**, if the subjects are plain. -/
theorem key_eq_iff {d e : Defect} (plain : IsPlain d.subject) (plain' : IsPlain e.subject) :
    d.key = e.key ↔ d.identity = e.identity := by
  refine ⟨fun same => ?_, key_eq_of_identity⟩
  have split : d.code.name ++ "\x00" ++ (d.subject ++ "\x00" ++ d.message) =
      e.code.name ++ "\x00" ++ (e.subject ++ "\x00" ++ e.message) := by
    simpa only [key, String.append_assoc] using same
  obtain ⟨codes, rest⟩ := append_nul_inj (isPlain_name _) (isPlain_name _) split
  obtain ⟨subjects, messages⟩ := append_nul_inj plain plain' rest
  rw [identity, identity, ofName_injective codes, subjects, messages]

end Defect

/-! ## First occurrences -/

/-- Two tests that agree on a list leave the same first occurrences. -/
theorem eraseDupsBy_congr {α : Type} {same same' : α → α → Bool} {items : List α}
    (agree : ∀ a ∈ items, ∀ b ∈ items, same a b = same' a b) :
    items.eraseDupsBy same = items.eraseDupsBy same' := by
  induction length : items.length using Nat.strong_induction_on generalizing items with
  | h n ih =>
    cases items with
    | nil => rfl
    | cons a rest =>
      have filters : rest.filter (fun b => same b a = false) =
          rest.filter (fun b => same' b a = false) := by
        apply List.filter_congr
        intro b member
        rw [agree b (List.mem_cons_of_mem a member) a List.mem_cons_self]
      rw [List.eraseDupsBy_cons, List.eraseDupsBy_cons, filters]
      refine congrArg (a :: ·) (ih _ ?_ ?_ rfl)
      · have bound := List.length_filter_le (fun b => decide (same' b a = false)) rest
        rw [← length, List.length_cons]
        omega
      · intro b member c member'
        exact agree b (List.mem_cons_of_mem a (List.mem_filter.mp member).1)
          c (List.mem_cons_of_mem a (List.mem_filter.mp member').1)

/-- The defects without those that have code, subject and message of an earlier one. -/
def firstReports (ds : List Defect) : List Defect :=
  ds.eraseDupsBy fun d e => d.identity == e.identity

/-- What is left of a list after a defect has been reported. -/
def unlike (d : Defect) (ds : List Defect) : List Defect :=
  ds.filter fun e => e.identity ≠ d.identity

theorem firstReports_cons (d : Defect) (ds : List Defect) :
    firstReports (d :: ds) = d :: firstReports (unlike d ds) := by
  have filters : (ds.filter fun e => (e.identity == d.identity) = false) = unlike d ds := by
    apply List.filter_congr
    intro e _
    simp
  rw [firstReports, List.eraseDupsBy_cons, filters]
  rfl

theorem length_unlike_lt (d : Defect) (ds : List Defect) :
    (unlike d ds).length < (d :: ds).length :=
  Nat.lt_succ_of_le (List.length_filter_le _ _)

/-- **First occurrences among some of the defects** are those among all of them, restricted, if
code, subject and message decide which ones they are. -/
theorem filter_firstReports {p : Defect → Bool} {ds : List Defect}
    (decided : ∀ d ∈ ds, ∀ e ∈ ds, d.identity = e.identity → p d = p e) :
    (firstReports ds).filter p = firstReports (ds.filter p) := by
  induction length : ds.length using Nat.strong_induction_on generalizing ds with
  | h n ih =>
    cases ds with
    | nil => rfl
    | cons d ds =>
      have rest :
          (firstReports (unlike d ds)).filter p = firstReports (unlike d (ds.filter p)) := by
        have inner : (unlike d ds).filter p = unlike d (ds.filter p) := by
          simp only [unlike, List.filter_filter, Bool.and_comm]
        rw [← inner]
        refine ih _ (length ▸ length_unlike_lt d ds) ?_ rfl
        intro e member e' member'
        exact decided e (List.mem_cons_of_mem d (List.mem_filter.mp member).1)
          e' (List.mem_cons_of_mem d (List.mem_filter.mp member').1)
      rw [firstReports_cons]
      by_cases chosen : p d
      · rw [List.filter_cons_of_pos chosen, List.filter_cons_of_pos chosen, firstReports_cons, rest]
      · -- nothing that is chosen is like `d`
        have apart : unlike d (ds.filter p) = ds.filter p := by
          apply List.filter_eq_self.mpr
          intro e member
          obtain ⟨inside, chosen'⟩ := List.mem_filter.mp member
          refine decide_eq_true fun same => chosen ?_
          rw [← decided e (List.mem_cons_of_mem d inside) d List.mem_cons_self same]
          exact chosen'
        rw [List.filter_cons_of_neg chosen, List.filter_cons_of_neg chosen, rest, apart]

theorem mem_of_mem_firstReports {d : Defect} {ds : List Defect} (member : d ∈ firstReports ds) :
    d ∈ ds := by
  induction length : ds.length using Nat.strong_induction_on generalizing ds with
  | h n ih =>
    cases ds with
    | nil => exact member
    | cons e ds =>
      rw [firstReports_cons] at member
      rcases List.mem_cons.mp member with rfl | member
      · exact List.mem_cons_self
      · have left := ih _ (length ▸ length_unlike_lt e ds) member rfl
        exact List.mem_cons_of_mem e (List.mem_filter.mp left).1

/-- Every defect is reported, be it through an earlier one that is like it. -/
theorem exists_mem_firstReports {d : Defect} {ds : List Defect} (member : d ∈ ds) :
    ∃ e ∈ firstReports ds, e.identity = d.identity := by
  induction length : ds.length using Nat.strong_induction_on generalizing ds with
  | h n ih =>
    cases ds with
    | nil => cases member
    | cons e ds =>
      rw [firstReports_cons]
      by_cases alike : d.identity = e.identity
      · exact ⟨e, List.mem_cons_self, alike.symm⟩
      · have inside : d ∈ unlike e ds := by
          refine List.mem_filter.mpr ⟨?_, decide_eq_true alike⟩
          exact List.mem_of_ne_of_mem (fun same => alike (congrArg _ same)) member
        obtain ⟨e', reported, same⟩ := ih _ (length ▸ length_unlike_lt e ds) inside rfl
        exact ⟨e', List.mem_cons_of_mem e reported, same⟩

/-- Which codes, subjects and messages are reported. -/
theorem mem_identities_firstReports {ds : List Defect}
    {identity : DefectCode × String × String} :
    identity ∈ (firstReports ds).map Defect.identity ↔ identity ∈ ds.map Defect.identity := by
  simp only [List.mem_map]
  constructor
  · rintro ⟨d, member, rfl⟩
    exact ⟨d, mem_of_mem_firstReports member, rfl⟩
  · rintro ⟨d, member, rfl⟩
    exact exists_mem_firstReports member

/-! ## First occurrences of parts -/

theorem unlike_append (d : Defect) (ds es : List Defect) :
    unlike d (ds ++ es) = unlike d ds ++ unlike d es :=
  List.filter_append _ _

theorem unlike_unlike (d : Defect) (ds : List Defect) : unlike d (unlike d ds) = unlike d ds := by
  simp only [unlike, List.filter_filter, Bool.and_self]

theorem unlike_firstReports (d : Defect) (ds : List Defect) :
    unlike d (firstReports ds) = firstReports (unlike d ds) :=
  filter_firstReports fun e _ e' _ same => by rw [same]

/-- To leave out repeats within a part changes nothing for the whole. -/
theorem firstReports_append_firstReports (ds es fs : List Defect) :
    firstReports (ds ++ (firstReports es ++ fs)) = firstReports (ds ++ (es ++ fs)) := by
  induction length : ds.length + es.length using Nat.strong_induction_on generalizing ds es fs with
  | h n ih =>
    cases ds with
    | cons d ds =>
      simp only [List.cons_append, firstReports_cons, unlike_append, unlike_firstReports]
      refine congrArg (d :: ·) (ih _ ?_ _ _ _ rfl)
      have shorter := length_unlike_lt d ds
      have bound : (unlike d es).length ≤ es.length := List.length_filter_le _ _
      omega
    | nil =>
      cases es with
      | nil => rfl
      | cons e es =>
        have once := ih _ (length ▸ Nat.add_lt_add_left (length_unlike_lt e es) _) []
          (unlike e es) (unlike e fs) rfl
        simp only [List.nil_append] at once ⊢
        simp only [List.cons_append, firstReports_cons, unlike_append, unlike_firstReports,
          unlike_unlike, once]

/-- **First occurrences in a row of parts** are those among the first occurrences of each. -/
theorem firstReports_flatMap {ι : Type} (parts : ι → List Defect) (ds : List Defect)
    (items : List ι) :
    firstReports (ds ++ items.flatMap fun i => firstReports (parts i)) =
      firstReports (ds ++ items.flatMap parts) := by
  induction items generalizing ds with
  | nil => rfl
  | cons i rest ih =>
    simp only [List.flatMap_cons]
    rw [firstReports_append_firstReports, ← List.append_assoc, ih, List.append_assoc]

/-! ## Collecting a list -/

namespace Collector

theorem addAll_append (c : Collector) (ds es : List Defect) :
    c.addAll (ds ++ es) = (c.addAll ds).addAll es :=
  List.foldl_append

theorem has_add (c : Collector) (d e : Defect) :
    (⟨c.defects ++ [d]⟩ : Collector).has e = (c.has e || d.key == e.key) := by
  simp [has]

/-- **A collector keeps the first of several defects with one key.** -/
theorem defects_addAll (c : Collector) (ds : List Defect) :
    (c.addAll ds).defects =
      c.defects ++ (ds.filter fun d => !c.has d).eraseDupsBy fun d e => d.key == e.key := by
  induction ds generalizing c with
  | nil => simp [addAll]
  | cons d ds ih =>
    have step : c.addAll (d :: ds) = (c.add d).addAll ds := rfl
    rw [step, ih]
    by_cases there : c.has d = true
    · simp [add, there]
    · have filters : (ds.filter fun e => !(⟨c.defects ++ [d]⟩ : Collector).has e) =
          (ds.filter fun e => !c.has e).filter fun e => (e.key == d.key) = false := by
        rw [List.filter_filter]
        apply List.filter_congr
        intro e _
        rw [has_add, Bool.beq_comm]
        cases c.has e <;> cases e.key == d.key <;> rfl
      simp only [Bool.not_eq_true] at there
      simp only [add, there, Bool.false_eq_true, if_false, List.append_assoc, List.cons_append,
        List.nil_append, filters, List.filter_cons, Bool.not_false, if_true,
        List.eraseDupsBy_cons]

/-- A collector that took in some defects only keeps the first of those with one key. -/
theorem defects_addAll_new (ds : List Defect) :
    (empty.addAll ds).defects = ds.eraseDupsBy fun d e => d.key == e.key := by
  have all : (ds.filter fun d => !empty.has d) = ds := by
    simp [has, empty]
  rw [defects_addAll, all, empty, List.nil_append]

/-- Defects no two of which have one key are all kept. -/
theorem defects_addAll_of_nodup {ds : List Defect} (nodup : (ds.map Defect.key).Nodup) :
    (empty.addAll ds).defects = ds := by
  rw [defects_addAll_new]
  induction ds with
  | nil => rfl
  | cons d ds ih =>
    rw [List.map_cons, List.nodup_cons] at nodup
    have apart : (ds.filter fun e => (e.key == d.key) = false) = ds := by
      refine List.filter_eq_self.mpr fun e member => decide_eq_true (beq_eq_false_iff_ne.mpr ?_)
      exact fun same => nodup.1 (same ▸ List.mem_map_of_mem member)
    rw [List.eraseDupsBy_cons, apart, ih nodup.2]

theorem defects_addAll_eq_nil_iff {ds : List Defect} :
    (empty.addAll ds).defects = [] ↔ ds = [] := by
  rw [defects_addAll_new]
  cases ds with
  | nil => simp
  | cons d ds => simp [List.eraseDupsBy_cons]

/-- Where keys tell apart what differs, a collector keeps the first occurrences of codes, subjects and
messages. -/
theorem defects_addAll_of_apart {ds : List Defect}
    (apart : ∀ d ∈ ds, ∀ e ∈ ds, d.key = e.key ↔ d.identity = e.identity) :
    (empty.addAll ds).defects = firstReports ds := by
  rw [defects_addAll_new, firstReports]
  apply eraseDupsBy_congr
  intro d member e member'
  rw [Bool.eq_iff_iff, beq_iff_eq, beq_iff_eq]
  exact apart d member e member'

/-- **With plain subjects, a collector keeps the first occurrences of codes, subjects and
messages.** -/
theorem defects_addAll_empty {ds : List Defect} (plain : ∀ d ∈ ds, IsPlain d.subject) :
    (empty.addAll ds).defects = firstReports ds :=
  defects_addAll_of_apart fun d member e member' =>
    Defect.key_eq_iff (plain d member) (plain e member')

/-- What is taken in is kept, or else something with its key. -/
theorem exists_key_of_mem {c : Collector} {ds : List Defect} {d : Defect} (member : d ∈ ds) :
    ∃ e ∈ (c.addAll ds).defects, e.key = d.key := by
  induction ds generalizing c with
  | nil => cases member
  | cons first ds ih =>
    rcases List.mem_cons.mp member with rfl | member
    · have kept : ∃ e ∈ (c.add d).defects, e.key = d.key := by
        by_cases there : c.has d = true
        · obtain ⟨e, inside, same⟩ := List.any_eq_true.mp there
          rw [add, if_pos there]
          exact ⟨e, inside, beq_iff_eq.mp same⟩
        · rw [add, if_neg there]
          exact ⟨d, List.mem_append_right _ (List.mem_singleton_self d), rfl⟩
      obtain ⟨e, inside, same⟩ := kept
      refine ⟨e, ?_, same⟩
      change e ∈ ((c.add d).addAll ds).defects
      rw [defects_addAll]
      exact List.mem_append_left _ inside
    · exact ih member

/-- Nothing is kept that was not taken in. -/
theorem mem_of_mem_addAll {c : Collector} {ds : List Defect} {d : Defect}
    (member : d ∈ (c.addAll ds).defects) : d ∈ c.defects ∨ d ∈ ds := by
  induction ds generalizing c with
  | nil => exact .inl member
  | cons e ds ih =>
    rcases ih (c := c.add e) member with member | member
    · unfold add at member
      split at member
      · exact .inl member
      · rcases List.mem_append.mp member with member | member
        · exact .inl member
        · exact .inr (List.mem_cons.mpr (.inl (List.mem_singleton.mp member)))
    · exact .inr (List.mem_cons_of_mem e member)

end Collector

end ServiceWriter

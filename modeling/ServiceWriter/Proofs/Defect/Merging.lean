import ServiceWriter.Proofs.Defect.Collecting
import ServiceWriter.Proofs.Defect.History

/-!
# What a collector merges

A collector keeps the first of several defects with one key. All that a key shows is the code and one
text, of the subject, U+0000 and the message (`Defect.key_eq_iff_label`). So a collector keeps the
first occurrences of codes, subjects and messages exactly if no two of the defects differ in one of
the three but have that text in common (`merges_addAll`); they cannot if all subjects are plain, or all
messages. Otherwise a defect that no other is like may be lost (`collector_merges_joined`).
-/

set_option autoImplicit false

namespace ServiceWriter

namespace Defect

/-- What a key shows of a defect: the code, and subject and message in one. -/
def label (d : Defect) : DefectCode × String := (d.code, d.subject ++ "\x00" ++ d.message)

/-- **Keys are equal exactly if labels are.** -/
theorem key_eq_iff_label {d e : Defect} : d.key = e.key ↔ d.label = e.label := by
  have key (d : Defect) : d.key = d.code.name ++ "\x00" ++ (d.subject ++ "\x00" ++ d.message) := by
    simp only [Defect.key, String.append_assoc]
  rw [key, key, label, label, Prod.mk.injEq]
  constructor
  · intro same
    obtain ⟨codes, rest⟩ := append_nul_inj (isPlain_name _) (isPlain_name _) same
    exact ⟨ofName_injective codes, rest⟩
  · rintro ⟨codes, rest⟩
    rw [codes, rest]

/-- Two texts without U+0000 that stand behind it are told apart, and so are those before it. -/
theorem append_nul_inj_behind {a a' b b' : String} (plain : IsPlain b) (plain' : IsPlain b')
    (same : a ++ "\x00" ++ b = a' ++ "\x00" ++ b') : a = a' ∧ b = b' := by
  have chars : b.toList.reverse ++ '\x00' :: a.toList.reverse =
      b'.toList.reverse ++ '\x00' :: a'.toList.reverse := by
    simpa using congrArg (List.reverse ∘ String.toList) same
  obtain ⟨tails, heads⟩ :=
    append_cons_inj (mt List.mem_reverse.mp plain) (mt List.mem_reverse.mp plain') chars
  exact ⟨String.toList_injective (List.reverse_injective heads),
    String.toList_injective (List.reverse_injective tails)⟩

/-- Keys tell apart what differs in code, subject or message also if the messages are plain. -/
theorem key_eq_iff_of_messages {d e : Defect} (plain : IsPlain d.message)
    (plain' : IsPlain e.message) : d.key = e.key ↔ d.identity = e.identity := by
  refine ⟨fun same => ?_, key_eq_of_identity⟩
  obtain ⟨codes, rest⟩ := Prod.mk.inj (key_eq_iff_label.mp same)
  obtain ⟨subjects, messages⟩ := append_nul_inj_behind plain plain' rest
  rw [identity, identity, codes, subjects, messages]

end Defect

namespace Collector

/-- No two defects in a collector have one key, if there were none. -/
theorem nodup_keys_addAll {c : Collector} {ds : List Defect} (nodup : (c.defects.map Defect.key).Nodup) :
    ((c.addAll ds).defects.map Defect.key).Nodup := by
  induction ds generalizing c with
  | nil => exact nodup
  | cons d ds ih =>
    refine ih (c := c.add d) ?_
    unfold add
    split
    · exact nodup
    · next absent =>
      rw [List.map_append, List.nodup_append]
      refine ⟨nodup, List.pairwise_singleton _ _, ?_⟩
      rintro key inside key' among rfl
      obtain ⟨e, there, same⟩ := List.mem_map.mp inside
      refine absent (List.any_eq_true.mpr ⟨e, there, ?_⟩)
      rw [same, List.mem_singleton.mp among, beq_iff_eq]

/-- **A collector tells defects apart** exactly if their keys do. -/
theorem defects_addAll_eq_firstReports_iff {ds : List Defect} :
    (empty.addAll ds).defects = firstReports ds ↔
      ∀ d ∈ ds, ∀ e ∈ ds, d.key = e.key → d.identity = e.identity := by
  constructor
  · intro exact d member e member' same
    -- what is reported in place of the two has one key, and is one defect
    obtain ⟨d', reported, alike⟩ := exists_mem_firstReports member
    obtain ⟨e', reported', alike'⟩ := exists_mem_firstReports member'
    have keys : d'.key = e'.key := by
      rw [Defect.key_eq_of_identity alike, same, Defect.key_eq_of_identity alike']
    have nodup : ((empty.addAll ds).defects.map Defect.key).Nodup := nodup_keys_addAll List.nodup_nil
    rw [exact] at nodup
    have one := List.inj_on_of_nodup_map nodup reported reported' keys
    rw [← alike, ← alike', one]
  · intro apart
    refine defects_addAll_of_apart fun d member e member' => ?_
    exact ⟨apart d member e member', Defect.key_eq_of_identity⟩

end Collector

/-- What is kept of defects: the first of those with one label. These are the first occurrences of
codes, subjects and messages exactly if no two defects that differ there have one label. -/
structure Merges (ds kept : List Defect) : Prop where
  firsts : kept = ds.eraseDupsBy fun d e => d.label == e.label
  exact_iff : kept = firstReports ds ↔
    ∀ d ∈ ds, ∀ e ∈ ds, d.label = e.label → d.identity = e.identity
  exact_of_plain :
    (∀ d ∈ ds, IsPlain d.subject) ∨ (∀ d ∈ ds, IsPlain d.message) → kept = firstReports ds

theorem merges_addAll (ds : List Defect) : Merges ds (Collector.empty.addAll ds).defects where
  firsts := by
    rw [Collector.defects_addAll_new]
    refine eraseDupsBy_congr fun d _ e _ => ?_
    rw [Bool.eq_iff_iff, beq_iff_eq, beq_iff_eq]
    exact Defect.key_eq_iff_label
  exact_iff := by
    simp only [Collector.defects_addAll_eq_firstReports_iff, Defect.key_eq_iff_label]
  exact_of_plain := by
    rintro (plain | plain)
    · exact Collector.defects_addAll_empty plain
    · refine Collector.defects_addAll_of_apart fun d member e member' => ?_
      exact Defect.key_eq_iff_of_messages (plain d member) (plain e member')

namespace Casebook

theorem View.collector_run_add (v : View) (ds : List Defect) :
    (v.run (ds.map .add)).collector = v.collector.addAll ds := by
  induction ds generalizing v with
  | nil => rfl
  | cons d ds ih => exact ih (v.after (.add d))

/-- **A collector merges what its keys do not tell apart, and nothing else.** Whatever was done before, a
new collector that takes in some defects hands out what is kept of them, as a list of its own and as
the list of the report that it raises, if there are any. -/
theorem collector_merges (earlier : List Step) (ds : List Defect) :
    ∃ kept, Merges ds kept ∧
      (Collector.empty.addAll ds).check = (if ds = [] then .ok () else .error kept) ∧
      answer (earlier ++ .renew :: ds.map .add) .defects = .list kept ∧
      answer (earlier ++ .renew :: ds.map .add) .raise =
        if ds = [] then .quiet else .raised (Defect.report kept) kept := by
  have reached : (View.run {} (earlier ++ .renew :: ds.map .add)).collector =
      Collector.empty.addAll ds := by
    rw [View.run_append]
    exact View.collector_run_add _ ds
  have empty : ((Collector.empty.addAll ds).defects.isEmpty = true) = (ds = []) := by
    rw [List.isEmpty_iff, Collector.defects_addAll_eq_nil_iff]
  refine ⟨_, merges_addAll ds, ?_, ?_, ?_⟩
  · rw [Collector.check, Collector.hasDefects]
    by_cases none : ds = []
    · rw [if_pos none]
      subst none
      rfl
    · have full : (!(Collector.empty.addAll ds).defects.isEmpty) = true := by
        rw [Bool.not_eq_true', ← Bool.not_eq_true, empty]
        exact none
      rw [if_neg none, if_pos full]
  · rw [answer_eq, View.answer, reached]
  · rw [answer_eq, View.answer, reached]
    simp only [empty]

/-- A defect in someone's words. -/
def flaw (code : DefectCode) (subject message : String) : Defect := ⟨.stated code message none, subject⟩

/-- A defect that is found again is merged with the first, and others are not. -/
theorem collector_merges_again :
    answer ([.defects] ++ .renew :: [flaw .invalidIdentifier "A.x" "bad",
        flaw .invalidIdentifier "A.x" "bad", flaw .invalidIdentifier "A.y" "bad",
        flaw .unsupportedNode "A.x" "bad"].map .add) .defects =
      .list [flaw .invalidIdentifier "A.x" "bad", flaw .invalidIdentifier "A.y" "bad",
        flaw .unsupportedNode "A.x" "bad"] := by
  obtain ⟨kept, merges, _, handed, _⟩ := collector_merges [.defects]
    [flaw .invalidIdentifier "A.x" "bad", flaw .invalidIdentifier "A.x" "bad",
      flaw .invalidIdentifier "A.y" "bad", flaw .unsupportedNode "A.x" "bad"]
  rw [handed, merges.exact_of_plain (.inl (by decide))]
  rfl

/-- Two defects that differ in subject and message are merged, since these make one text together. -/
theorem collector_merges_joined :
    answer ([flaw .internalError "A" "x\x00y", flaw .internalError "A\x00x" "y"].map .add) .defects =
        .list [flaw .internalError "A" "x\x00y"] ∧
      firstReports [flaw .internalError "A" "x\x00y", flaw .internalError "A\x00x" "y"] =
        [flaw .internalError "A" "x\x00y", flaw .internalError "A\x00x" "y"] :=
  ⟨rfl, rfl⟩

end Casebook

end ServiceWriter

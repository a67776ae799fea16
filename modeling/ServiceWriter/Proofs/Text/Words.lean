import Mathlib
import ServiceWriter.Proofs.Text.Scan
import ServiceWriter.Proofs.Text.PascalCase

/-!
# Words in Pascal case

The words of a text are its longest runs of letters and digits (`IsRun`). Pascal case writes all the
letters and digits, one after another, and changes only a lower-case letter that starts a run
(`forall₂_writes`). What stands before a separator has no bearing on the words behind it
(`pascalChars_separated`), and a text in Pascal case is one word that starts as it should
(`pascalChars_pascalChars`).
-/

set_option autoImplicit false

namespace ServiceWriter.Text

/-! ## Texts put together -/

/-- Whether a letter or digit behind some characters starts a word. `atStart` says so of one in their
place. -/
def startsBehind (atStart : Bool) (before : List Char) : Bool :=
  match before.getLast? with
  | some c => !c.isAlphanum
  | none => atStart

theorem startsBehind_cons (atStart : Bool) (c : Char) (before : List Char) :
    startsBehind atStart (c :: before) = startsBehind (!c.isAlphanum) before := by
  cases before with
  | nil => rfl
  | cons d before => rfl

theorem startsBehind_append_singleton (atStart : Bool) (before : List Char) (c : Char) :
    startsBehind atStart (before ++ [c]) = !c.isAlphanum := by
  rw [startsBehind, List.getLast?_concat]

section

variable {atStart : Bool} {c : Char} {rest : List Char}

theorem pascalChars_cons_of_kept (kept : c.isAlphanum = true) :
    pascalChars atStart (c :: rest) =
      (if atStart then c.toUpper else c) :: pascalChars false rest := by
  rw [pascalChars, if_pos kept]

theorem pascalChars_cons_of_dropped (dropped : c.isAlphanum = false) :
    pascalChars atStart (c :: rest) = pascalChars true rest := by
  rw [pascalChars, if_neg (Bool.eq_false_iff.mp dropped)]

end

/-- What comes first matters to the rest only in whether the rest starts with a word. -/
theorem pascalChars_append (atStart : Bool) (before rest : List Char) :
    pascalChars atStart (before ++ rest) =
      pascalChars atStart before ++ pascalChars (startsBehind atStart before) rest := by
  induction before generalizing atStart with
  | nil => rfl
  | cons c before ih =>
    rw [List.cons_append, startsBehind_cons]
    cases kept : c.isAlphanum with
    | true =>
      rw [pascalChars_cons_of_kept kept, pascalChars_cons_of_kept kept, ih, List.cons_append]
      rfl
    | false =>
      rw [pascalChars_cons_of_dropped kept, pascalChars_cons_of_dropped kept, ih]
      rfl

section

variable {separator : List Char} (dropped : ∀ c ∈ separator, c.isAlphanum = false)
include dropped

theorem pascalChars_of_dropped (atStart : Bool) : pascalChars atStart separator = [] := by
  induction separator generalizing atStart with
  | nil => rfl
  | cons c rest ih =>
    rw [pascalChars_cons_of_dropped (dropped c List.mem_cons_self)]
    exact ih (fun d member => dropped d (List.mem_cons_of_mem c member)) true

theorem startsBehind_of_dropped (atStart : Bool) (nonempty : separator ≠ []) :
    startsBehind atStart separator = true := by
  have last := dropped _ (List.getLast_mem nonempty)
  rw [startsBehind, List.getLast?_eq_some_getLast nonempty]
  simp only [last, Bool.not_false]

/-- **A separator divides the words** of what stands before it from those of what stands behind. -/
theorem pascalChars_separated (nonempty : separator ≠ []) (before rest : List Char) :
    pascalChars true (before ++ separator ++ rest) =
      pascalChars true before ++ pascalChars true rest := by
  rw [List.append_assoc, pascalChars_append, pascalChars_append _ separator,
    pascalChars_of_dropped dropped, startsBehind_of_dropped dropped _ nonempty, List.nil_append]

end

/-! ## A text that is in Pascal case -/

theorem toUpper_of_head_pascalChars {text : List Char} {c : Char}
    (first : (pascalChars true text).head? = some c) : c.toUpper = c := by
  induction text with
  | nil => cases first
  | cons d rest ih =>
    cases kept : d.isAlphanum with
    | true =>
      rw [pascalChars_cons_of_kept kept, List.head?_cons] at first
      cases first
      exact Char.toUpper_toUpper_eq_toUpper d
    | false =>
      rw [pascalChars_cons_of_dropped kept] at first
      exact ih first

theorem pascalChars_of_kept {text : List Char} (kept : ∀ c ∈ text, c.isAlphanum = true) :
    pascalChars false text = text := by
  induction text with
  | nil => rfl
  | cons c rest ih =>
    rw [pascalChars_cons_of_kept (kept c List.mem_cons_self),
      ih fun d member => kept d (List.mem_cons_of_mem c member)]
    rfl

/-- **A text in Pascal case stays as it is.** -/
theorem pascalChars_pascalChars (text : List Char) :
    pascalChars true (pascalChars true text) = pascalChars true text := by
  have kept : ∀ c ∈ pascalChars true text, c.isAlphanum = true := fun _ member =>
    isAlphanum_of_mem_pascalChars member
  cases written : pascalChars true text with
  | nil => rfl
  | cons c rest =>
    rw [written] at kept
    have first : (pascalChars true text).head? = some c := by rw [written, List.head?_cons]
    have capital : c.toUpper = c := toUpper_of_head_pascalChars first
    rw [pascalChars_cons_of_kept (kept c List.mem_cons_self), if_pos rfl, capital,
      pascalChars_of_kept fun d member => kept d (List.mem_cons_of_mem c member)]

/-! ## Runs of letters and digits -/

/-- A letter or digit stands at a place of a text. -/
def IsKeptAt (text : List Char) (i : Nat) : Prop :=
  ∃ c, text[i]? = some c ∧ c.isAlphanum = true

/-- A longest run of letters and digits, from the place `start` up to the place `stop`. -/
structure IsRun (text : List Char) (start stop : Nat) : Prop where
  nonempty : start < stop
  kept : ∀ i, start ≤ i → i < stop → IsKeptAt text i
  before : ∀ i, i + 1 = start → ¬ IsKeptAt text i
  behind : ¬ IsKeptAt text stop

theorem not_isKeptAt_of_length_le {text : List Char} {i : Nat} (far : text.length ≤ i) :
    ¬ IsKeptAt text i := by
  rintro ⟨c, here, _⟩
  rw [List.getElem?_eq_none far] at here
  cases here

/-- A run starts at a letter or digit that has none before it. -/
theorem exists_isRun_iff {text : List Char} {i : Nat} :
    (∃ stop, IsRun text i stop) ↔ IsKeptAt text i ∧ ∀ j, j + 1 = i → ¬ IsKeptAt text j := by
  classical
  constructor
  · rintro ⟨stop, run⟩
    exact ⟨run.kept i (Nat.le_refl i) run.nonempty, run.before⟩
  · rintro ⟨here, before⟩
    -- the run stops at the first place behind it that holds no letter or digit
    have ends : ∃ stop, i < stop ∧ ¬ IsKeptAt text stop :=
      ⟨i + 1 + text.length, by omega, not_isKeptAt_of_length_le (by omega)⟩
    refine ⟨Nat.find ends, (Nat.find_spec ends).1, fun j above below => ?_, before,
      (Nat.find_spec ends).2⟩
    rcases Nat.eq_or_lt_of_le above with rfl | behind
    · exact here
    · exact not_not.mp fun dropped => Nat.find_min ends below ⟨behind, dropped⟩

theorem startsBehind_iff {before rest : List Char} :
    startsBehind true before = true ↔
      ∀ i, i + 1 = before.length → ¬ IsKeptAt (before ++ rest) i := by
  rcases List.eq_nil_or_concat before with rfl | ⟨earlier, d, rfl⟩
  · simp [startsBehind]
  · have last : IsKeptAt (earlier ++ [d] ++ rest) earlier.length ↔ d.isAlphanum = true := by
      simp [IsKeptAt]
    rw [List.concat_eq_append, startsBehind_append_singleton, Bool.not_eq_true',
      ← Bool.not_eq_true, ← last, List.length_append, List.length_singleton]
    constructor
    · rintro dropped i same
      rwa [Nat.add_right_cancel same]
    · exact fun dropped => dropped _ rfl

/-! ## What is written -/

/-- Which character is written for the one at a place: the capital of a lower-case letter that starts
a run, and any other character itself. -/
inductive Writes (text : List Char) (i : Nat) : Char → Prop
  | capital {c : Char} (here : text[i]? = some c) (lower : c.isLower = true)
      (starts : ∃ stop, IsRun text i stop) : Writes text i c.toUpper
  | same {c : Char} (here : text[i]? = some c)
      (other : ¬ (c.isLower = true ∧ ∃ stop, IsRun text i stop)) : Writes text i c

theorem writes_toUpper {text : List Char} {i : Nat} {c : Char} (here : text[i]? = some c)
    (starts : ∃ stop, IsRun text i stop) : Writes text i c.toUpper := by
  by_cases lower : c.isLower = true
  · exact .capital here lower starts
  · rw [Char.toUpper_eq_of_not_isLower lower]
    exact .same here fun both => lower both.1

/-- The places of letters and digits, of so many places from one on. -/
def keptPlaces (text : List Char) (start count : Nat) : List Nat :=
  (List.range' start count).filter fun i => (text[i]?).any Char.isAlphanum

theorem mem_keptPlaces_iff {text : List Char} {i : Nat} :
    i ∈ keptPlaces text 0 text.length ↔ IsKeptAt text i := by
  rw [keptPlaces, List.mem_filter, List.mem_range'_1, Option.any_eq_true, IsKeptAt]
  constructor
  · exact And.right
  · rintro ⟨c, here, kept⟩
    have inside : i < text.length := (List.getElem?_eq_some_iff.mp here).1
    exact ⟨⟨Nat.zero_le i, by omega⟩, c, here, kept⟩

/-- **The letters and digits behind some characters are written one after another.** -/
theorem forall₂_writes (before rest : List Char) :
    List.Forall₂ (Writes (before ++ rest))
      (keptPlaces (before ++ rest) before.length rest.length)
      (pascalChars (startsBehind true before) rest) := by
  induction rest generalizing before with
  | nil => exact .nil
  | cons c rest ih =>
    have here : (before ++ c :: rest)[before.length]? = some c := by simp
    have later := ih (before ++ [c])
    rw [List.append_assoc, List.singleton_append, List.length_append, List.length_singleton,
      startsBehind_append_singleton] at later
    cases kept : c.isAlphanum with
    | true =>
      rw [kept] at later
      rw [pascalChars_cons_of_kept kept, keptPlaces, List.length_cons, List.range'_succ,
        List.filter_cons_of_pos (by rw [here]; exact kept)]
      refine .cons ?_ later
      have run : startsBehind true before = true ↔
          ∃ stop, IsRun (before ++ c :: rest) before.length stop := by
        rw [exists_isRun_iff, startsBehind_iff]
        exact ⟨fun first => ⟨⟨c, here, kept⟩, first⟩, And.right⟩
      split
      · next starts => exact writes_toUpper here (run.mp starts)
      · next inside => exact .same here fun both => inside (run.mpr both.2)
    | false =>
      rw [kept] at later
      rw [pascalChars_cons_of_dropped kept, keptPlaces, List.length_cons, List.range'_succ,
        List.filter_cons_of_neg (by rw [here]; simp [kept])]
      exact later

/-- **The laws of Pascal case.** Texts with a separator between them, that is, with something between
them that holds no letter or digit, are written one behind the other. What is in Pascal case stays as
it is. Pascal case consists of all the letters and digits of a text, in their order, and only a
lower-case letter that starts a longest run of them is changed, to its capital. -/
theorem pascalCase_laws (text : String) :
    (∀ separator other : String, separator ≠ "" →
      (∀ c ∈ separator.toList, c.isAlphanum = false) →
      pascalCase (text ++ separator ++ other) = pascalCase text ++ pascalCase other) ∧
    pascalCase (pascalCase text) = pascalCase text ∧
    ∃ places : List Nat, places.Pairwise (· < ·) ∧
      (∀ i, i ∈ places ↔ IsKeptAt text.toList i) ∧
      List.Forall₂ (Writes text.toList) places (pascalCase text).toList := by
  refine ⟨fun separator other nonempty dropped => ?_, ?_, keptPlaces text.toList 0 text.toList.length,
    ?_, fun i => mem_keptPlaces_iff, ?_⟩
  · have filled : separator.toList ≠ [] := by simpa using nonempty
    simp only [pascalCase, String.toList_append, pascalChars_separated dropped filled,
      String.ofList_append]
  · rw [pascalCase, pascalCase, String.toList_ofList, pascalChars_pascalChars]
  · exact List.Pairwise.filter _ List.pairwise_lt_range'
  · rw [pascalCase, String.toList_ofList]
    exact forall₂_writes [] text.toList

/-- A separator of several characters, one of them a letter outside basic Latin, before a digit. -/
theorem pascalCase_laws_divided :
    "-é." ≠ "" ∧ (∀ c ∈ "-é.".toList, c.isAlphanum = false) ∧
      pascalCase ("url shortener" ++ "-é." ++ "2nd v") = "UrlShortener" ++ "2ndV" := by
  have dropped : ∀ c ∈ "-é.".toList, c.isAlphanum = false :=
    forall_mem_of_all (by decide)
  refine ⟨by decide, dropped, ?_⟩
  exact ((pascalCase_laws "url shortener").1 "-é." "2nd v" (by decide) dropped).trans
    (by decide +kernel)

end ServiceWriter.Text

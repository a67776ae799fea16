import ServiceWriter.Proofs.Text.Scan
import ServiceWriter.Text.Dotted
import ServiceWriter.Text.Identifier

/-!
# Dotted names put together again

The parts of a dotted name, with the dots between them, are the name (`toList_of_dottedParts`). The
simple name of a name is one of its parts, and has itself as its only part
(`dottedParts_simpleName`). What stands before the first separator holds none
(`of_splitFirst_eq_some`), and what stands behind the last one holds none
(`of_splitLast_eq_some`).
-/

set_option autoImplicit false

namespace ServiceWriter.Text

/-! ## Splitting at each separator -/

variable {separator : Char}

theorem splitEach_ne_nil (separator : Char) (text : List Char) :
    splitEach separator text ≠ [] := by
  cases text with
  | nil => exact List.cons_ne_nil _ _
  | cons c rest =>
    unfold splitEach
    split
    · exact List.cons_ne_nil _ _
    · split
      · exact List.cons_ne_nil _ _
      · exact List.cons_ne_nil _ _

theorem splitEach_cons_self (rest : List Char) :
    splitEach separator (separator :: rest) = [] :: splitEach separator rest := by
  rw [splitEach, if_pos rfl]

theorem splitEach_cons_of_ne {c : Char} {rest part : List Char} {parts : List (List Char)}
    (apart : c ≠ separator) (split : splitEach separator rest = part :: parts) :
    splitEach separator (c :: rest) = (c :: part) :: parts := by
  rw [splitEach, if_neg apart, split]

/-- A text without separators is one stretch. -/
theorem splitEach_of_notMem {text : List Char} (absent : separator ∉ text) :
    splitEach separator text = [text] := by
  induction text with
  | nil => rfl
  | cons c rest ih =>
    rw [List.mem_cons, not_or] at absent
    exact splitEach_cons_of_ne (Ne.symm absent.1) (ih absent.2)

/-- A separator divides the stretches of what stands before it from those of what stands after it.
-/
theorem splitEach_append_cons (before after : List Char) :
    splitEach separator (before ++ separator :: after) =
      splitEach separator before ++ splitEach separator after := by
  induction before with
  | nil => exact splitEach_cons_self after
  | cons c rest ih =>
    by_cases same : c = separator
    · rw [same, List.cons_append, splitEach_cons_self, splitEach_cons_self, ih, List.cons_append]
    · obtain ⟨part, parts, split⟩ := List.exists_cons_of_ne_nil (splitEach_ne_nil separator rest)
      rw [split] at ih
      rw [List.cons_append, splitEach_cons_of_ne same ih, splitEach_cons_of_ne same split]
      rfl

/-- The stretches after the first, each behind a separator. -/
def behind (separator : Char) (parts : List (List Char)) : List Char :=
  parts.flatMap (separator :: ·)

/-- **The stretches with separators between them are the text.** -/
theorem append_behind_of_splitEach {text part : List Char} {parts : List (List Char)}
    (split : splitEach separator text = part :: parts) : part ++ behind separator parts = text := by
  induction text generalizing part parts with
  | nil =>
    cases split
    rfl
  | cons c rest ih =>
    obtain ⟨part', parts', split'⟩ := List.exists_cons_of_ne_nil (splitEach_ne_nil separator rest)
    by_cases same : c = separator
    · rw [same, splitEach_cons_self, split'] at split
      cases split
      rw [List.nil_append, behind, List.flatMap_cons, List.cons_append, same]
      exact congrArg (separator :: ·) (ih split')
    · rw [splitEach_cons_of_ne same split'] at split
      cases split
      rw [List.cons_append, ih split']

/-! ## Splitting at the first separator -/

theorem splitFirst_append_cons {before : List Char} (after : List Char)
    (absent : separator ∉ before) :
    splitFirst separator (before ++ separator :: after) = some (before, after) := by
  induction before with
  | nil => rw [List.nil_append, splitFirst, if_pos rfl]
  | cons c rest ih =>
    rw [List.mem_cons, not_or] at absent
    rw [List.cons_append, splitFirst, if_neg (Ne.symm absent.1), ih absent.2]
    rfl

theorem of_splitFirst_eq_some {text before after : List Char}
    (some : splitFirst separator text = some (before, after)) :
    text = before ++ separator :: after ∧ separator ∉ before := by
  induction text generalizing before with
  | nil => cases some
  | cons c rest ih =>
    unfold splitFirst at some
    split at some
    · next same =>
      cases some
      exact ⟨congrArg (· :: after) same, List.not_mem_nil⟩
    · next apart =>
      obtain ⟨⟨before', after'⟩, here, both⟩ := Option.map_eq_some_iff.mp some
      cases both
      obtain ⟨same, absent⟩ := ih here
      refine ⟨congrArg (c :: ·) same, ?_⟩
      rw [List.mem_cons, not_or]
      exact ⟨Ne.symm apart, absent⟩

/-! ## Splitting at the last separator -/

theorem of_splitLast_eq_none {text : List Char} (none : splitLast separator text = none) :
    separator ∉ text := by
  induction text with
  | nil => exact List.not_mem_nil
  | cons c rest ih =>
    unfold splitLast at none
    split at none
    · cases none
    · rename_i here
      split at none
      · cases none
      · rename_i apart
        rw [List.mem_cons, not_or]
        exact ⟨Ne.symm apart, ih here⟩

theorem of_splitLast_eq_some {text before after : List Char}
    (some : splitLast separator text = some (before, after)) :
    text = before ++ separator :: after ∧ separator ∉ after := by
  induction text generalizing before with
  | nil => cases some
  | cons c rest ih =>
    unfold splitLast at some
    split at some
    · rename_i before' after' here
      cases some
      obtain ⟨same, absent⟩ := ih here
      rw [same]
      exact ⟨rfl, absent⟩
    · rename_i here
      split at some
      · rename_i same
        cases some
        rw [same]
        exact ⟨rfl, of_splitLast_eq_none here⟩
      · cases some

/-! ## Dotted names -/

theorem dottedParts_ne_nil (name : String) : dottedParts name ≠ [] := by
  simp [dottedParts, splitEach_ne_nil]

/-- **The parts with dots between them are the name.** -/
theorem toList_of_dottedParts {name part : String} {parts : List String}
    (split : dottedParts name = part :: parts) :
    name.toList = part.toList ++ behind '.' (parts.map String.toList) := by
  obtain ⟨first, others, split'⟩ := List.exists_cons_of_ne_nil (splitEach_ne_nil '.' name.toList)
  rw [dottedParts, split'] at split
  cases split
  rw [← append_behind_of_splitEach split', String.toList_ofList, List.map_map]
  simp [Function.comp_def]

/-- **A simple name is a part of the name**, and has no other part than itself. -/
theorem dottedParts_simpleName (name : String) :
    dottedParts (simpleName name) = [simpleName name] ∧ simpleName name ∈ dottedParts name := by
  unfold simpleName
  cases found : splitLast '.' name.toList with
  | none =>
    have single := splitEach_of_notMem (of_splitLast_eq_none found)
    simp [dottedParts, single]
  | some split =>
    obtain ⟨before, after⟩ := split
    obtain ⟨same, absent⟩ := of_splitLast_eq_some found
    have single := splitEach_of_notMem absent
    simp [dottedParts, same, splitEach_append_cons, single]

/-- A simple name has no characters of its own. -/
theorem mem_of_mem_simpleName {name : String} {c : Char} (inside : c ∈ (simpleName name).toList) :
    c ∈ name.toList := by
  unfold simpleName at inside
  split at inside
  · next before after found =>
    rw [String.toList_ofList] at inside
    rw [(of_splitLast_eq_some found).1]
    exact List.mem_append_right _ (List.mem_cons_of_mem _ inside)
  · exact inside

end ServiceWriter.Text

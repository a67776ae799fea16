import Mathlib.Data.List.TakeWhile

/-!
# Scanning a run of characters

A scanner takes the longest run of characters of one kind off the front of a text. It takes exactly
`run` off `run ++ rest` when `run` is of that kind and `rest` does not go on with it.
-/

set_option autoImplicit false

namespace ServiceWriter.Text

/-- The text is empty or starts with a character that is not of the kind. -/
def Stops (kind : Char → Bool) (rest : List Char) : Prop :=
  ∀ c ∈ rest.head?, kind c = false

variable {kind : Char → Bool} {run rest : List Char}

theorem stops_nil : Stops kind [] := by
  intro c member
  simp at member

theorem stops_cons {c : Char} : Stops kind (c :: rest) ↔ kind c = false := by
  simp [Stops]

theorem takeWhile_append_stops (all : ∀ c ∈ run, kind c = true) (stops : Stops kind rest) :
    (run ++ rest).takeWhile kind = run := by
  rw [List.takeWhile_append_of_pos all]
  cases rest with
  | nil => simp
  | cons c rest => simp [stops_cons.mp stops]

theorem dropWhile_append_stops (all : ∀ c ∈ run, kind c = true) (stops : Stops kind rest) :
    (run ++ rest).dropWhile kind = rest := by
  rw [List.dropWhile_append_of_pos all]
  cases rest with
  | nil => rfl
  | cons c rest => simp [stops_cons.mp stops]

/-- What holds of each of some characters, tested one by one. To decide it as it is stated would mean
to test all characters there are. -/
theorem forall_mem_of_all {p : Char → Prop} [DecidablePred p] {characters : List Char}
    (all : characters.all (fun c => decide (p c)) = true) : ∀ c ∈ characters, p c :=
  fun c listed => of_decide_eq_true (List.all_eq_true.mp all c listed)

end ServiceWriter.Text

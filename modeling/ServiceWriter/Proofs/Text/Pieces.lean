import Mathlib.Data.List.Basic
import ServiceWriter.Proofs.Text.Split
import ServiceWriter.Target.Layout

/-!
# Texts made of pieces

To say what may stand in a text, one says what pieces it is made of (`MadeOf`). A text that is put
together from such texts is made of the same pieces; so is a dotted name, if a dot and its parts are
pieces. What is laid out on a page is made of the pieces that were put there, blanks and ends of
line (`MadeOf.render`).
-/

set_option autoImplicit false

namespace ServiceWriter.Text

/-- The text is made of pieces that are as `P` says, one behind the other. -/
def MadeOf (P : String → Prop) (text : String) : Prop :=
  ∃ pieces : List String, (∀ piece ∈ pieces, P piece) ∧ String.join pieces = text

namespace MadeOf

variable {P : String → Prop} {text text' : String}

theorem empty : MadeOf P "" := ⟨[], fun _ member => absurd member List.not_mem_nil, rfl⟩

theorem piece (holds : P text) : MadeOf P text := by
  refine ⟨[text], fun piece member => ?_, ?_⟩
  · rw [List.mem_singleton.mp member]
    exact holds
  · rw [String.join_cons, String.join_nil, String.append_empty]

theorem append (first : MadeOf P text) (second : MadeOf P text') : MadeOf P (text ++ text') := by
  obtain ⟨pieces, holds, rfl⟩ := first
  obtain ⟨pieces', holds', rfl⟩ := second
  refine ⟨pieces ++ pieces', List.forall_mem_append.mpr ⟨holds, holds'⟩, ?_⟩
  rw [String.join_append]

theorem join {texts : List String} (each : ∀ text ∈ texts, MadeOf P text) :
    MadeOf P (String.join texts) := by
  induction texts with
  | nil => exact empty
  | cons first rest ih =>
    rw [String.join_cons]
    exact (each first List.mem_cons_self).append
      (ih fun text member => each text (List.mem_cons_of_mem first member))

/-- Pieces may be taken apart further. -/
theorem refine {Q : String → Prop} (made : MadeOf P text)
    (finer : ∀ piece, P piece → MadeOf Q piece) : MadeOf Q text := by
  obtain ⟨pieces, holds, rfl⟩ := made
  exact join fun piece listed => finer piece (holds piece listed)

/-- Texts with a separator between each two. -/
theorem intercalate {separator : String} (between : MadeOf P separator) {texts : List String}
    (each : ∀ text ∈ texts, MadeOf P text) : MadeOf P (separator.intercalate texts) := by
  induction texts with
  | nil => exact empty
  | cons first rest ih =>
    have here : MadeOf P first := each first List.mem_cons_self
    cases rest with
    | nil =>
      rw [String.intercalate_singleton]
      exact here
    | cons second rest =>
      rw [String.intercalate_cons_cons]
      exact (here.append between).append
        (ih fun text member => each text (List.mem_cons_of_mem first member))

/-- A dotted name is made of dots and its parts. -/
theorem dotted {name : String} (dot : P ".") (parts : ∀ part ∈ dottedParts name, P part) :
    MadeOf P name := by
  obtain ⟨first, others, split⟩ := List.exists_cons_of_ne_nil (dottedParts_ne_nil name)
  have same : name = first ++ String.join (others.map ("." ++ ·)) := by
    rw [← String.toList_inj, toList_of_dottedParts split, String.toList_append,
      String.toList_join, behind, List.flatMap_map, List.flatMap_map]
    simp
  rw [split] at parts
  rw [same]
  refine (piece (parts first List.mem_cons_self)).append (join fun text member => ?_)
  obtain ⟨part, among, rfl⟩ := List.mem_map.mp member
  exact (piece dot).append (piece (parts part (List.mem_cons_of_mem first among)))

/-! ## On a page -/

/-- White space is made of blanks. -/
theorem indentation (blank : P " ") (depth : Nat) : MadeOf P (Layout.indentation depth) := by
  refine ⟨List.replicate (4 * depth) " ", fun piece member => ?_, ?_⟩
  · rw [List.eq_of_mem_replicate member]
    exact blank
  · rw [← String.toList_inj, String.toList_join, Layout.indentation, String.toList_ofList]
    generalize 4 * depth = width
    induction width with
    | zero => rfl
    | succ width ih =>
      rw [List.replicate_succ, List.flatMap_cons, ih]
      rfl

section

variable {page : Layout.Page} {pieces : List Layout.Piece}

theorem put (blank : P " ") (end_ : P "\n") {piece : Layout.Piece}
    (written : MadeOf P page.written) (holds : ∀ text, piece = .text text → P text) :
    MadeOf P (page.put piece).written := by
  cases piece with
  | text value =>
    unfold Layout.Page.put
    simp only
    split
    · exact written
    · refine (written.append ?_).append (MadeOf.piece (holds value rfl))
      split
      · exact indentation blank page.depth
      · exact empty
  | endLine =>
    unfold Layout.Page.put
    simp only
    split
    · exact written
    · exact written.append (MadeOf.piece end_)
  | deeper => exact written
  | back => exact written

/-- What is laid out is made of the pieces laid out, blanks and ends of line. -/
theorem render (blank : P " ") (end_ : P "\n") (holds : ∀ text, .text text ∈ pieces → P text) :
    MadeOf P (Layout.render pieces) := by
  have fill : ∀ page : Layout.Page, MadeOf P page.written →
      MadeOf P (pieces.foldl Layout.Page.put page).written := by
    induction pieces with
    | nil => exact fun page written => written
    | cons piece rest ih =>
      intro page written
      refine ih (fun text member => holds text (List.mem_cons_of_mem piece member)) _ ?_
      exact put blank end_ written fun text same => holds text (same ▸ List.mem_cons_self)
  exact fill {} empty

end

end MadeOf

end ServiceWriter.Text

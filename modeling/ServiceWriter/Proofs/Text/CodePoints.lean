import Mathlib.Data.List.DropRight
import ServiceWriter.Text.Blank

/-!
# Texts among the rows of code points

A row of code points is a text if none of them is a surrogate, and then it is the row of the characters
of that text (`text?_eq_some_iff`). A row is blank exactly if nothing is left of it when white space is
taken off both its ends (`isBlank_iff_trimmed`).
-/

set_option autoImplicit false

namespace ServiceWriter.Text.CodePoints

/-! ## Texts -/

theorem charAt_toNat (c : Char) : charAt c.toNat = c :=
  (if_pos c.valid).trans (Char.ofNat_toNat c)

theorem toNat_charAt {point : Nat} (valid : point.isValidChar) : (charAt point).toNat = point := by
  rw [charAt, if_pos valid, Char.ofNat, dif_pos valid]
  rfl

theorem shown_ofString (text : String) : (ofString text).shown = text := by
  simp only [shown, ofString, List.map_map, Function.comp_def, charAt_toNat, List.map_id',
    String.ofList_toList]

theorem ofString_shown {row : CodePoints} (valid : ∀ point ∈ row.points, point.isValidChar) :
    ofString row.shown = row := by
  have same : row.points.map (fun point => (charAt point).toNat) = row.points :=
    (List.map_congr_left fun point member => toNat_charAt (valid point member)).trans
      (List.map_id' row.points)
  rw [ofString, shown, String.toList_ofList, List.map_map]
  exact congrArg CodePoints.mk same

/-- **The row of a text is the only one that is that text.** -/
theorem text?_eq_some_iff {row : CodePoints} {text : String} :
    row.text? = some text ↔ row = ofString text := by
  constructor
  · intro shows
    rw [text?] at shows
    split at shows
    · next all =>
      have valid : ∀ point ∈ row.points, point.isValidChar := fun point member =>
        of_decide_eq_true (List.all_eq_true.mp all point member)
      rw [← Option.some.inj shows, ofString_shown valid]
    · cases shows
  · rintro rfl
    have all : (ofString text).points.all (fun point => point.isValidChar) = true := by
      rw [List.all_eq_true]
      intro point member
      obtain ⟨c, _, rfl⟩ := List.mem_map.mp member
      exact decide_eq_true c.valid
    rw [text?, if_pos all, shown_ofString]

/-- A text is among the texts of some rows if its row is among the rows. -/
theorem mem_filterMap_text?_iff {rows : List CodePoints} {text : String} :
    text ∈ rows.filterMap (·.text?) ↔ ofString text ∈ rows := by
  simp only [List.mem_filterMap, text?_eq_some_iff, exists_eq_right]

/-! ## White space at the ends -/

/-- The row without the white space and the line terminators at its two ends. -/
def trimmed (row : CodePoints) : CodePoints :=
  ⟨(row.points.dropWhile isBlankPoint).rdropWhile isBlankPoint⟩

/-- **A row is blank if nothing is left of it** when its ends are trimmed. -/
theorem isBlank_iff_trimmed {row : CodePoints} : row.isBlank = true ↔ row.trimmed = ofString "" := by
  have rest : row.trimmed = ofString "" ↔
      (row.points.dropWhile isBlankPoint).rdropWhile isBlankPoint = [] := by
    rw [trimmed, ofString, mk.injEq]
    rfl
  rw [rest, List.rdropWhile_eq_nil_iff, isBlank, List.all_eq_true]
  constructor
  · intro blank point member
    exact blank point ((List.dropWhile_sublist _).mem member)
  · intro blank
    have nothing : row.points.dropWhile isBlankPoint = [] := by
      cases left : row.points.dropWhile isBlankPoint with
      | nil => rfl
      | cons point points =>
        -- what is left starts with a point that is not blank
        have first := List.head_dropWhile_not isBlankPoint (l := row.points) (by simp [left])
        simp only [left, List.head_cons] at first
        rw [blank point (by simp [left])] at first
        cases first
    exact List.dropWhile_eq_nil_iff.mp nothing

end ServiceWriter.Text.CodePoints

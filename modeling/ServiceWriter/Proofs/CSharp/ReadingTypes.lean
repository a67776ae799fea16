import ServiceWriter.Proofs.CSharp.Reader

/-!
# C# names and types read back

Names that may be written as they stand are no words of the grammar (`IsFreeName.isName`), and
neither are the names that types are printed by (`isName_of_csharpTypeName`). A type is read back as
it is printed, whatever comes after it that does not go on with it (`reads_typeText`).
-/

set_option autoImplicit false

namespace ServiceWriter.CSharp

open Text

/-! ## Names -/

theorem isIdentifierPart_of_mem {name : String} (valid : isIdentifier name = true) :
    ∀ c ∈ name.toList, isIdentifierPart c = true := by
  unfold isIdentifier at valid
  cases chars : name.toList with
  | nil =>
    rw [chars] at valid
    cases valid
  | cons c rest =>
    rw [chars, isIdentifierChars, Bool.and_eq_true] at valid
    intro d member
    rcases List.mem_cons.mp member with rfl | member
    · simp only [isIdentifierStart, isIdentifierPart, Char.isAlphanum, Bool.or_eq_true] at valid ⊢
      exact valid.1.imp .inl id
    · exact List.all_eq_true.mp valid.2 d member

theorem exists_head {name : String} (valid : isIdentifier name = true) :
    ∃ c rest, name.toList = c :: rest ∧ isIdentifierStart c = true := by
  unfold isIdentifier at valid
  cases chars : name.toList with
  | nil =>
    rw [chars] at valid
    cases valid
  | cons c rest =>
    rw [chars, isIdentifierChars, Bool.and_eq_true] at valid
    exact ⟨c, rest, rfl, valid.1⟩

/-- The words that are no names where an atom begins. -/
def atomWords : List String := ["null", "true", "false", "this", "new"]

/-- A name where an atom begins. -/
def IsName (name : String) : Prop := isIdentifier name = true ∧ name ∉ atomWords

instance (name : String) : Decidable (IsName name) := inferInstanceAs (Decidable (_ ∧ _))

theorem atomWords_reserved :
    ∀ word ∈ atomWords, ReservedWords.standard.contains .csharp word = true := by
  decide

theorem IsFreeName.isName {name : String} (free : IsFreeName name) : IsName name := by
  refine ⟨free.1, fun member => ?_⟩
  have reserved := atomWords_reserved name member
  rw [free.2] at reserved
  cases reserved

theorem IsName.wordExpr {name : String} (isName : IsName name) :
    wordExpr name = .variableRef name := by
  obtain ⟨_, apart⟩ := isName
  simp only [atomWords, List.mem_cons, List.not_mem_nil, or_false, not_or] at apart
  simp [CSharp.wordExpr, apart]

/-- The names that a type can be printed by: a keyword, a simple name or the full name. -/
theorem isName_of_csharpTypeName (imports : List String) {name : String}
    (free : ∀ part ∈ dottedParts name, IsFreeName part) :
    ∀ part ∈ dottedParts (csharpTypeName imports name), IsName part := by
  have keywords : ∀ entry ∈ csharpKeywords, ∀ part ∈ dottedParts entry.2, IsName part := by
    decide
  unfold csharpTypeName
  split
  · rename_i keyword found
    obtain ⟨before, after, split, _⟩ := List.lookup_eq_some_iff.mp found
    refine keywords (name, keyword) ?_
    rw [split]
    exact List.mem_append_right before List.mem_cons_self
  · simp only
    split
    · obtain ⟨single, member⟩ := dottedParts_simpleName name
      intro part inside
      rw [single, List.mem_singleton] at inside
      rw [inside]
      exact (free _ member).isName
    · exact fun part member => (free part member).isName

theorem isDottedPart_of_mem {name : String} (parts : ∀ part ∈ dottedParts name, IsName part) :
    ∀ c ∈ name.toList, isDottedPart c = true := by
  obtain ⟨part, others, split⟩ := List.exists_cons_of_ne_nil (dottedParts_ne_nil name)
  have inside {part : String} (isName : IsName part) :
      ∀ c ∈ part.toList, isDottedPart c = true := by
    intro c member
    rw [isDottedPart, isIdentifierPart_of_mem isName.1 c member, Bool.true_or]
  rw [split] at parts
  intro c member
  rw [toList_of_dottedParts split] at member
  rcases List.mem_append.mp member with member | member
  · exact inside (parts part List.mem_cons_self) c member
  · obtain ⟨_, among, member⟩ := List.mem_flatMap.mp member
    obtain ⟨other, listed, rfl⟩ := List.mem_map.mp among
    rcases List.mem_cons.mp member with rfl | member
    · rfl
    · exact inside (parts other (List.mem_cons_of_mem part listed)) c member

/-! ## Types -/

/-- What can come after a type. -/
def EndsType (rest : List Char) : Prop :=
  Stops isDottedPart rest ∧ ∀ c ∈ rest.head?, c ≠ '<'

theorem endsType_cons {c : Char} {rest : List Char} (stops : isDottedPart c = false)
    (plain : c ≠ '<') : EndsType (c :: rest) := by
  refine ⟨stops_cons.mpr stops, fun d member => ?_⟩
  cases member
  exact plain

theorem readType_plain {name : String} {rest : List Char} (fuel : Nat)
    (dotted : ∀ c ∈ name.toList, isDottedPart c = true) (ends : EndsType rest) :
    readType (fuel + 1) (name.toList ++ rest) = some (.mk name [], rest) := by
  rw [readType]
  simp only [takeWhile_append_stops dotted ends.1, dropWhile_append_stops dotted ends.1,
    String.ofList_toList]
  split
  · rename_i others
    exact absurd rfl (ends.2 '<' rfl)
  · rfl

theorem readType_arguments {name : String} (fuel : Nat) (rest : List Char)
    (dotted : ∀ c ∈ name.toList, isDottedPart c = true) :
    readType (fuel + 1) (name.toList ++ '<' :: rest) =
      (readTypes fuel rest).bind fun (types, rest) => some (.mk name types, rest) := by
  have stops : Stops isDottedPart ('<' :: rest) := stops_cons.mpr rfl
  rw [readType]
  simp only [takeWhile_append_stops dotted stops, dropWhile_append_stops dotted stops,
    String.ofList_toList]

theorem typeText_plain (imports : List String) (name : String) :
    typeText imports (.mk name []) = csharpTypeName imports name :=
  String.append_empty

theorem typeText_arguments (imports : List String) (name : String) (type : TypeRef)
    (types : List TypeRef) (rest : List Char) :
    (typeText imports (.mk name (type :: types))).toList ++ rest =
      (csharpTypeName imports name).toList ++
        '<' :: ((", ".intercalate (typeTexts imports (type :: types))).toList ++ '>' :: rest) := by
  simp [typeText]

/-- Texts of a list behind one another, with a comma and a blank between each two. -/
theorem intercalate_cons (text next : String) (texts : List String) :
    (", ".intercalate (text :: next :: texts)).toList =
      text.toList ++ ',' :: ' ' :: (", ".intercalate (next :: texts)).toList := by
  rw [String.intercalate_cons_cons, String.toList_append, String.toList_append, List.append_assoc]
  rfl

variable (imports : List String)

mutual

/-- Types are read back as they are printed. -/
theorem reads_typeText : ∀ (type : TypeRef),
    (∀ name ∈ typeNames type, ∀ part ∈ dottedParts name, IsFreeName part) →
    ∀ {rest : List Char}, EndsType rest →
      Settles (readType · ((typeText imports type).toList ++ rest)) (printedType imports type, rest)
  | .mk name arguments, free, rest, ends => by
    have dotted := isDottedPart_of_mem
      (isName_of_csharpTypeName imports (free name List.mem_cons_self))
    cases arguments with
    | nil =>
      rw [typeText_plain]
      exact Settles.step (fun fuel => readType_plain fuel dotted ends) (Settles.const _)
    | cons type types =>
      rw [typeText_arguments]
      refine Settles.step (fun fuel => readType_arguments fuel _ dotted) ?_
      have inside := reads_typeTexts (type :: types) (List.cons_ne_nil _ _)
        (fun other member => free other (List.mem_cons_of_mem name member)) rest
      exact inside.bind (Settles.const _)

/-- Lists of types are read back up to the bracket behind them. -/
theorem reads_typeTexts : ∀ (types : List TypeRef), types ≠ [] →
    (∀ name ∈ typesNames types, ∀ part ∈ dottedParts name, IsFreeName part) →
    ∀ rest : List Char,
      Settles (readTypes · ((", ".intercalate (typeTexts imports types)).toList ++ '>' :: rest))
        (printedTypes imports types, rest)
  | [], nonempty, _, _ => absurd rfl nonempty
  | [type], _, free, rest => by
    rw [typeTexts, typeTexts, String.intercalate_singleton]
    refine Settles.step (fun fuel => by rw [readTypes]) ?_
    have first := reads_typeText type (fun name member => free name (List.mem_append_left _ member))
      (endsType_cons rfl (by decide) : EndsType ('>' :: rest))
    exact first.bind (Settles.const _)
  | type :: next :: types, _, free, rest => by
    rw [typeTexts, typeTexts, intercalate_cons, List.append_assoc]
    refine Settles.step (fun fuel => by rw [readTypes]) ?_
    refine Settles.bind (reads_typeText type
      (fun name member => free name (List.mem_append_left _ member))
      (endsType_cons rfl (by decide))) ?_
    have others := reads_typeTexts (next :: types) (List.cons_ne_nil _ _)
      (fun name member => free name (List.mem_append_right _ member)) rest
    exact others.bind (Settles.const _)

end

end ServiceWriter.CSharp

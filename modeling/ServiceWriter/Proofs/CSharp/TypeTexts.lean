import ServiceWriter.Proofs.CSharp.ReadingTypes
import ServiceWriter.Proofs.Walk.Parts

/-!
# When types are printed alike

A type is printed by its full name or by a short one: its keyword, or its simple name if its
namespace is imported. Full names and short names keep apart, since only full names have dots; but
two types may have one short name (`Clash`), and then they are printed alike (`csharpTypeName_eq_iff`).

With arguments, the text of a type shows where each name begins and ends, so that types are printed
alike only if they are at each place (`typeText_eq_iff`). Names are taken as they come; all that
is asked of them is that they hold none of the signs that arguments are written with.
-/

set_option autoImplicit false

namespace ServiceWriter.CSharp

open Text

variable {imports : List String}

/-! ## Names -/

/-- The name that a type is printed by instead of its full name: its keyword, or its simple name if
its namespace is imported. -/
def shortName (imports : List String) (fullName : String) : Option String :=
  match csharpKeywords.lookup fullName with
  | some keyword => some keyword
  | none => if imports.contains (namespaceOf fullName) then some (simpleName fullName) else none

/-- Two types have one short name. -/
def Clash (imports : List String) (first second : String) : Prop :=
  first ≠ second ∧ ∃ name, shortName imports first = some name ∧ shortName imports second = some name

theorem Clash.shortName_eq {first second : String} (clash : Clash imports first second) :
    shortName imports first = shortName imports second := by
  obtain ⟨_, name, short, short'⟩ := clash
  rw [short, short']

theorem mem_of_keyword {fullName keyword : String}
    (found : csharpKeywords.lookup fullName = some keyword) :
    (fullName, keyword) ∈ csharpKeywords := by
  obtain ⟨before, after, split, _⟩ := List.lookup_eq_some_iff.mp found
  rw [split]
  exact List.mem_append_right before List.mem_cons_self

/-- A type in a namespace is printed by its short name, or else by its full name. -/
theorem csharpTypeName_eq {fullName : String} (qualified : namespaceOf fullName ≠ "") :
    csharpTypeName imports fullName = (shortName imports fullName).getD fullName := by
  unfold csharpTypeName shortName
  cases csharpKeywords.lookup fullName with
  | some keyword => rfl
  | none =>
    simp only [qualified, decide_false, Bool.false_or]
    split <;> rfl

theorem dot_mem_of_qualified {fullName : String} (qualified : namespaceOf fullName ≠ "") :
    '.' ∈ fullName.toList := by
  unfold namespaceOf at qualified
  split at qualified
  · rename_i before after found
    rw [(of_splitLast_eq_some found).1]
    exact List.mem_append_right _ List.mem_cons_self
  · exact absurd rfl qualified

theorem dot_notMem_simpleName (fullName : String) : '.' ∉ (simpleName fullName).toList := by
  unfold simpleName
  cases found : splitLast '.' fullName.toList with
  | none => exact of_splitLast_eq_none found
  | some split =>
    rw [String.toList_ofList]
    exact (of_splitLast_eq_some found).2

/-- No short name has a dot. -/
theorem dot_notMem_shortName {fullName name : String} (short : shortName imports fullName = some name) :
    '.' ∉ name.toList := by
  have keywords : ∀ entry ∈ csharpKeywords, '.' ∉ entry.2.toList := by decide
  unfold shortName at short
  split at short
  · rename_i keyword found
    cases short
    exact keywords _ (mem_of_keyword found)
  · split at short
    · cases short
      exact dot_notMem_simpleName fullName
    · cases short

/-- **Types in namespaces are printed by one name** exactly if they are the same, or have one short
name. -/
theorem csharpTypeName_eq_iff {first second : String} (qualified : namespaceOf first ≠ "")
    (qualified' : namespaceOf second ≠ "") :
    csharpTypeName imports first = csharpTypeName imports second ↔
      first = second ∨ Clash imports first second := by
  constructor
  · intro same
    by_cases equal : first = second
    · exact .inl equal
    refine .inr ⟨equal, ?_⟩
    rw [csharpTypeName_eq qualified, csharpTypeName_eq qualified'] at same
    cases short : shortName imports first with
    | none =>
      rw [short, Option.getD_none] at same
      cases short' : shortName imports second with
      | none =>
        rw [short', Option.getD_none] at same
        exact absurd same equal
      | some name =>
        rw [short', Option.getD_some] at same
        exact absurd (same ▸ dot_mem_of_qualified qualified) (dot_notMem_shortName short')
    | some name =>
      rw [short, Option.getD_some] at same
      cases short' : shortName imports second with
      | none =>
        rw [short', Option.getD_none] at same
        exact absurd (same ▸ dot_mem_of_qualified qualified') (dot_notMem_shortName short)
      | some name' =>
        rw [short', Option.getD_some] at same
        exact ⟨name, rfl, congrArg some same.symm⟩
  · rintro (rfl | ⟨_, name, short, short'⟩)
    · rfl
    · rw [csharpTypeName_eq qualified, csharpTypeName_eq qualified', short, short',
        Option.getD_some, Option.getD_some]

/-- Types clash only where the namespace of one of them is imported. -/
theorem Clash.imported {first second : String} (clash : Clash imports first second) :
    namespaceOf first ∈ imports ∨ namespaceOf second ∈ imports := by
  have apart : ∀ entry ∈ csharpKeywords, ∀ entry' ∈ csharpKeywords,
      entry.2 = entry'.2 → entry.1 = entry'.1 := by
    decide
  obtain ⟨differ, name, short, short'⟩ := clash
  unfold shortName at short short'
  split at short
  · rename_i keyword found
    split at short'
    · rename_i keyword' found'
      cases short
      cases short'
      exact absurd (apart _ (mem_of_keyword found) _ (mem_of_keyword found') rfl) differ
    · split at short'
      · rename_i imported
        exact .inr (List.contains_iff_mem.mp imported)
      · cases short'
  · split at short
    · rename_i imported
      exact .inl (List.contains_iff_mem.mp imported)
    · cases short

/-! ## Texts -/

/-- The signs that type arguments are written with. -/
def argumentSigns : List Char := ['<', '>', ',']

/-- A name without these signs. -/
def IsBare (name : String) : Prop := ∀ c ∈ name.toList, argumentSigns.contains c = false

instance (name : String) : Decidable (IsBare name) :=
  List.decidableBAll (fun c => argumentSigns.contains c = false) name.toList

theorem isBare_simpleName {fullName : String} (bare : IsBare fullName) :
    IsBare (simpleName fullName) := by
  unfold simpleName
  split
  · rename_i before after found
    intro c inside
    rw [String.toList_ofList] at inside
    refine bare c ?_
    rw [(of_splitLast_eq_some found).1]
    exact List.mem_append_right _ (List.mem_cons_of_mem _ inside)
  · exact bare

theorem isBare_csharpTypeName {fullName : String} (bare : IsBare fullName) :
    IsBare (csharpTypeName imports fullName) := by
  have keywords : ∀ entry ∈ csharpKeywords, IsBare entry.2 := by decide
  unfold csharpTypeName
  split
  · rename_i keyword found
    exact keywords _ (mem_of_keyword found)
  · simp only
    split
    · exact isBare_simpleName bare
    · exact bare

/-- What comes after a name goes on with one of the signs, if at all. -/
def EndsName (rest : List Char) : Prop := Stops (fun c => !argumentSigns.contains c) rest

/-- What comes after a type, which might have had arguments but has none. -/
def EndsTypeText (rest : List Char) : Prop := EndsName rest ∧ ∀ c ∈ rest.head?, c ≠ '<'

theorem endsName_cons {c : Char} {rest : List Char} (sign : c ∈ argumentSigns) :
    EndsName (c :: rest) :=
  stops_cons.mpr (by simpa using sign)

theorem endsTypeText_cons {c : Char} {rest : List Char} (sign : c ∈ argumentSigns)
    (plain : c ≠ '<') : EndsTypeText (c :: rest) := by
  refine ⟨endsName_cons sign, fun d first => ?_⟩
  cases first
  exact plain

/-- A bare name can be told from what comes after it. -/
theorem bare_append_inj {name name' : String} {rest rest' : List Char} (bare : IsBare name)
    (bare' : IsBare name') (ends : EndsName rest) (ends' : EndsName rest')
    (same : name.toList ++ rest = name'.toList ++ rest') : name = name' ∧ rest = rest' := by
  have all : ∀ c ∈ name.toList, (!argumentSigns.contains c) = true :=
    fun c inside => by rw [bare c inside, Bool.not_false]
  have all' : ∀ c ∈ name'.toList, (!argumentSigns.contains c) = true :=
    fun c inside => by rw [bare' c inside, Bool.not_false]
  constructor
  · apply String.toList_injective
    rw [← takeWhile_append_stops all ends, same, takeWhile_append_stops all' ends']
  · rw [← dropWhile_append_stops all ends, same, dropWhile_append_stops all' ends']

mutual

/-- **The text of a type shows how its names are printed**, and where it ends. -/
theorem typeText_append_inj : ∀ (type type' : TypeRef), (∀ name ∈ typeNames type, IsBare name) →
    (∀ name ∈ typeNames type', IsBare name) →
    ∀ {rest rest' : List Char}, EndsTypeText rest → EndsTypeText rest' →
      (typeText imports type).toList ++ rest = (typeText imports type').toList ++ rest' →
      printedType imports type = printedType imports type' ∧ rest = rest'
  | .mk name arguments, .mk name' arguments', bare, bare', rest, rest', ends, ends', same => by
    have plain : IsBare (csharpTypeName imports name) :=
      isBare_csharpTypeName (bare name List.mem_cons_self)
    have plain' : IsBare (csharpTypeName imports name') :=
      isBare_csharpTypeName (bare' name' List.mem_cons_self)
    have opens {rest : List Char} : EndsName ('<' :: rest) := endsName_cons (by decide)
    cases arguments with
    | nil =>
      rw [typeText_plain] at same
      cases arguments' with
      | nil =>
        rw [typeText_plain] at same
        obtain ⟨names, rests⟩ := bare_append_inj plain plain' ends.1 ends'.1 same
        exact ⟨by rw [printedType, printedType, names, printedTypes], rests⟩
      | cons type' types' =>
        rw [typeText_arguments] at same
        obtain ⟨_, rests⟩ := bare_append_inj plain plain' ends.1 opens same
        exact absurd rfl (ends.2 '<' (by rw [rests]; rfl))
    | cons type types =>
      rw [typeText_arguments] at same
      cases arguments' with
      | nil =>
        rw [typeText_plain] at same
        obtain ⟨_, rests⟩ := bare_append_inj plain plain' opens ends'.1 same
        exact absurd rfl (ends'.2 '<' (by rw [← rests]; rfl))
      | cons type' types' =>
        rw [typeText_arguments] at same
        obtain ⟨names, rests⟩ := bare_append_inj plain plain' opens opens same
        obtain ⟨inside, rests⟩ := typeTexts_append_inj (type :: types) (type' :: types')
          (List.cons_ne_nil _ _) (List.cons_ne_nil _ _)
          (fun other among => bare other (List.mem_cons_of_mem name among))
          (fun other among => bare' other (List.mem_cons_of_mem name' among))
          (List.cons.inj rests).2
        exact ⟨by rw [printedType, printedType, names, inside], rests⟩

/-- The same of the arguments of a type, up to the bracket behind them. -/
theorem typeTexts_append_inj : ∀ (types types' : List TypeRef), types ≠ [] → types' ≠ [] →
    (∀ name ∈ typesNames types, IsBare name) → (∀ name ∈ typesNames types', IsBare name) →
    ∀ {rest rest' : List Char},
      (", ".intercalate (typeTexts imports types)).toList ++ '>' :: rest =
        (", ".intercalate (typeTexts imports types')).toList ++ '>' :: rest' →
      printedTypes imports types = printedTypes imports types' ∧ rest = rest'
  | [], _, nonempty, _, _, _, _, _, _ => absurd rfl nonempty
  | _ :: _, [], _, nonempty, _, _, _, _, _ => absurd rfl nonempty
  | type :: types, type' :: types', _, _, bare, bare', rest, rest', same => by
    have comma {rest : List Char} : EndsTypeText (',' :: rest) :=
      endsTypeText_cons (by decide) (by decide)
    have closes {rest : List Char} : EndsTypeText ('>' :: rest) :=
      endsTypeText_cons (by decide) (by decide)
    have first : ∀ name ∈ typeNames type, IsBare name :=
      fun name among => bare name (List.mem_append_left _ among)
    have first' : ∀ name ∈ typeNames type', IsBare name :=
      fun name among => bare' name (List.mem_append_left _ among)
    cases types with
    | nil =>
      rw [typeTexts, typeTexts, String.intercalate_singleton] at same
      cases types' with
      | nil =>
        rw [typeTexts, typeTexts, String.intercalate_singleton] at same
        obtain ⟨here, rests⟩ := typeText_append_inj type type' first first' closes closes same
        exact ⟨by rw [printedTypes, here]; rfl, (List.cons.inj rests).2⟩
      | cons next' others' =>
        rw [typeTexts, typeTexts, intercalate_cons, List.append_assoc] at same
        obtain ⟨_, rests⟩ := typeText_append_inj type type' first first' closes comma same
        exact absurd (List.cons.inj rests).1 (by decide)
    | cons next others =>
      rw [typeTexts, typeTexts, intercalate_cons, List.append_assoc] at same
      cases types' with
      | nil =>
        rw [typeTexts, typeTexts, String.intercalate_singleton] at same
        obtain ⟨_, rests⟩ := typeText_append_inj type type' first first' comma closes same
        exact absurd (List.cons.inj rests).1 (by decide)
      | cons next' others' =>
        rw [typeTexts, typeTexts, intercalate_cons, List.append_assoc] at same
        obtain ⟨here, rests⟩ := typeText_append_inj type type' first first' comma comma same
        obtain ⟨inside, rests⟩ := typeTexts_append_inj (next :: others) (next' :: others')
          (List.cons_ne_nil _ _) (List.cons_ne_nil _ _)
          (fun name among => bare name (List.mem_append_right _ among))
          (fun name among => bare' name (List.mem_append_right _ among))
          (List.cons.inj (List.cons.inj rests).2).2
        exact ⟨by rw [printedTypes, here, inside]; rfl, rests⟩

end

/-- Types have one text exactly if they are printed as the same type. -/
theorem typeText_eq_iff {type type' : TypeRef} (bare : ∀ name ∈ typeNames type, IsBare name)
    (bare' : ∀ name ∈ typeNames type', IsBare name) :
    typeText imports type = typeText imports type' ↔
      printedType imports type = printedType imports type' := by
  constructor
  · intro same
    have ends : EndsTypeText [] := ⟨stops_nil, fun _ first => nomatch first⟩
    exact (typeText_append_inj type type' bare bare' ends ends (by rw [same])).1
  · intro same
    rw [typeText_eq, typeText_eq, same]

/-! ## Types kept apart -/

mutual

/-- The names of a type are those of its parts. -/
theorem typeNames_eq_map : ∀ type : TypeRef, typeNames type = type.parts.map TypeRef.name
  | .mk name arguments => by
    rw [typeNames, TypeRef.parts, List.map_cons, typesNames_eq_map arguments]
    rfl

theorem typesNames_eq_map : ∀ types : List TypeRef,
    typesNames types = (typeParts types).map TypeRef.name
  | [] => rfl
  | type :: rest => by
    rw [typesNames, typeParts, List.map_append, typeNames_eq_map type, typesNames_eq_map rest]

end

/-- Two types whose names clash, with arguments that are printed alike. -/
def Blurs (imports : List String) (first second : TypeRef) : Prop :=
  Clash imports first.name second.name ∧
    typeTexts imports first.arguments = typeTexts imports second.arguments

theorem isEmpty_typeTexts (types : List TypeRef) :
    (typeTexts imports types).isEmpty = types.isEmpty := by
  cases types <;> rfl

/-- The text of a type, made of its name and the texts of its arguments. -/
theorem typeText_congr {first second : TypeRef}
    (names : csharpTypeName imports first.name = csharpTypeName imports second.name)
    (texts : typeTexts imports first.arguments = typeTexts imports second.arguments) :
    typeText imports first = typeText imports second := by
  obtain ⟨name, arguments⟩ := first
  obtain ⟨name', arguments'⟩ := second
  simp only [TypeRef.name, TypeRef.arguments] at names texts
  have empty : arguments.isEmpty = arguments'.isEmpty := by
    rw [← isEmpty_typeTexts, texts, isEmpty_typeTexts]
  rw [typeText, typeText, names, texts, empty]

/-- Types that blur are printed alike. -/
theorem Blurs.typeText_eq {first second : TypeRef} (blurs : Blurs imports first second)
    (qualified : namespaceOf first.name ≠ "") (qualified' : namespaceOf second.name ≠ "") :
    typeText imports first = typeText imports second :=
  typeText_congr ((csharpTypeName_eq_iff qualified qualified').mpr (.inr blurs.1)) blurs.2

mutual

/-- **Types of which no parts blur** are the same if they are printed as the same type. -/
theorem eq_of_printedType : ∀ first second : TypeRef,
    (∀ part ∈ first.parts, namespaceOf part.name ≠ "") →
    (∀ part ∈ second.parts, namespaceOf part.name ≠ "") →
    (∀ part ∈ first.parts, ∀ part' ∈ second.parts, ¬ Blurs imports part part') →
    printedType imports first = printedType imports second → first = second
  | .mk name arguments, .mk name' arguments', qualified, qualified', apart, same => by
    rw [printedType, printedType, TypeRef.mk.injEq] at same
    rw [TypeRef.parts, List.forall_mem_cons] at qualified qualified' apart
    have texts : typeTexts imports arguments = typeTexts imports arguments' := by
      rw [typeTexts_eq, typeTexts_eq, same.2]
    have clear : ¬ Clash imports name name' :=
      fun clash => apart.1 _ List.mem_cons_self ⟨clash, texts⟩
    have names : name = name' :=
      ((csharpTypeName_eq_iff qualified.1 qualified'.1).mp same.1).resolve_right clear
    have inside := eq_of_printedTypes arguments arguments' qualified.2 qualified'.2
      (fun part among part' among' => apart.2 part among part' (List.mem_cons_of_mem _ among'))
      same.2
    rw [names, inside]

theorem eq_of_printedTypes : ∀ first second : List TypeRef,
    (∀ part ∈ typeParts first, namespaceOf part.name ≠ "") →
    (∀ part ∈ typeParts second, namespaceOf part.name ≠ "") →
    (∀ part ∈ typeParts first, ∀ part' ∈ typeParts second, ¬ Blurs imports part part') →
    printedTypes imports first = printedTypes imports second → first = second
  | [], [], _, _, _, _ => rfl
  | [], _ :: _, _, _, _, same => by cases same
  | _ :: _, [], _, _, _, same => by cases same
  | type :: rest, type' :: rest', qualified, qualified', apart, same => by
    rw [printedTypes, printedTypes, List.cons.injEq] at same
    rw [typeParts, List.forall_mem_append] at qualified qualified' apart
    have here := eq_of_printedType type type' qualified.1 qualified'.1
      (fun part among part' among' => apart.1 part among part' (List.mem_append_left _ among')) same.1
    have later := eq_of_printedTypes rest rest' qualified.2 qualified'.2
      (fun part among part' among' => apart.2 part among part' (List.mem_append_right _ among'))
      same.2
    rw [here, later]

end

end ServiceWriter.CSharp

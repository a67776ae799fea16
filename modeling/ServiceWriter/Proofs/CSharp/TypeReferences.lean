import ServiceWriter.Proofs.CSharp.TypeTexts
import ServiceWriter.Proofs.Walk.Clean

/-!
# Types that a C# text refers to

The types of a class are those in the declarations of its members and variables, those that its
expressions name or create, and the arguments of all these. The text of each of them stands in a row
of the class (`shows_typeReferences`). An emission does not look at them: it is accepted whatever
they are. So a text keeps them apart exactly if no two of them blur (`emission_shows_types`).
-/

set_option autoImplicit false

namespace ServiceWriter

open Text

/-! ## Types of a class -/

/-- The types that the declaration of a member names. A property names its type once. -/
def Member.declaredTypes : Member → List TypeRef
  | .field f => [f.type]
  | .property p => [p.type]
  | .method m => m.returnType :: m.parameters.map Parameter.type
  | .foreign _ _ => []

/-- The types that an expression itself names. -/
def Expr.ownTypes : Expr → List TypeRef
  | .typeName type | .create type _ => [type]
  | _ => []

/-- The types that a class refers to, with their arguments. -/
def ClassDecl.typeReferences (c : ClassDecl) : List TypeRef :=
  typeParts
    (c.members.flatMap Member.declaredTypes ++ c.variableTypes ++ c.expressions.flatMap Expr.ownTypes)

theorem exists_mem_of_mem_typeParts {part : TypeRef} {types : List TypeRef}
    (inside : part ∈ typeParts types) : ∃ type ∈ types, part ∈ type.parts := by
  induction types with
  | nil => cases inside
  | cons type rest ih =>
    rw [typeParts, List.mem_append] at inside
    rcases inside with here | later
    · exact ⟨type, List.mem_cons_self, here⟩
    · obtain ⟨other, among, found⟩ := ih later
      exact ⟨other, List.mem_cons_of_mem type among, found⟩

namespace CSharp

/-! ## Texts inside texts -/

/-- A text is a stretch of another one. -/
def Within (part whole : String) : Prop := part.toList <:+: whole.toList

namespace Within

variable {part text text' : String}

theorem refl (text : String) : Within text text := List.infix_refl _

theorem trans {whole : String} (inner : Within part text) (outer : Within text whole) :
    Within part whole :=
  List.IsInfix.trans inner outer

theorem before (inside : Within part text) : Within part (text ++ text') := by
  rw [Within, String.toList_append]
  exact List.IsInfix.trans inside (List.prefix_append _ _).isInfix

theorem behind (inside : Within part text') : Within part (text ++ text') := by
  rw [Within, String.toList_append]
  exact List.IsInfix.trans inside (List.suffix_append _ _).isInfix

theorem intercalate {texts : List String} {separator : String} (listed : text ∈ texts) :
    Within text (separator.intercalate texts) := by
  induction texts with
  | nil => cases listed
  | cons first rest ih =>
    cases rest with
    | nil =>
      rw [List.mem_singleton.mp listed, String.intercalate_singleton]
      exact .refl _
    | cons second rest =>
      rw [String.intercalate_cons_cons]
      rcases List.mem_cons.mp listed with rfl | listed
      · exact (Within.refl _).before.before
      · exact (ih listed).behind

end Within

variable {imports : List String}

mutual

/-- The text of a type holds the texts of its arguments. -/
theorem within_typeText {part : TypeRef} : ∀ type : TypeRef, part ∈ type.parts →
    Within (typeText imports part) (typeText imports type)
  | .mk name arguments, inside => by
    rw [TypeRef.parts] at inside
    rcases List.mem_cons.mp inside with rfl | inside
    · exact .refl _
    · obtain ⟨text, listed, within⟩ := within_typeTexts arguments inside
      cases arguments with
      | nil => cases listed
      | cons type types =>
        rw [typeText]
        exact within.trans (Within.intercalate listed).behind.before.behind

theorem within_typeTexts {part : TypeRef} : ∀ types : List TypeRef, part ∈ typeParts types →
    ∃ text ∈ typeTexts imports types, Within (typeText imports part) text
  | [], inside => nomatch inside
  | type :: rest, inside => by
    rw [typeParts] at inside
    rw [typeTexts]
    rcases List.mem_append.mp inside with here | later
    · exact ⟨_, List.mem_cons_self, within_typeText type here⟩
    · obtain ⟨text, listed, within⟩ := within_typeTexts rest later
      exact ⟨text, List.mem_cons_of_mem _ listed, within⟩

end

theorem within_operand {part text : String} (e : Expr) (inside : Within part text) :
    Within part (operand e text) := by
  unfold operand
  split
  · exact inside.behind.before
  · exact inside

mutual

/-- The text of an expression holds the texts of the expressions inside it. -/
theorem within_expressionText {part : Expr} : ∀ e : Expr, part ∈ e.parts →
    Within (expressionText imports part) (expressionText imports e)
  | .literal _, inside | .this, inside | .variableRef _, inside | .argumentRef _, inside
  | .typeName _, inside | .foreign _, inside => by
    rw [Expr.parts, List.mem_singleton] at inside
    exact inside ▸ .refl _
  | .field target name, inside | .property target name, inside => by
    rw [Expr.parts] at inside
    rcases List.mem_cons.mp inside with rfl | inside
    · exact .refl _
    · rw [expressionText]
      exact (within_expressionText target inside).before.before
  | .create type arguments, inside => by
    rw [Expr.parts] at inside
    rcases List.mem_cons.mp inside with rfl | inside
    · exact .refl _
    · obtain ⟨text, listed, within⟩ := within_expressionTexts arguments inside
      rw [expressionText]
      exact within.trans (Within.intercalate listed).behind.before
  | .invoke target method arguments, inside => by
    rw [Expr.parts] at inside
    rcases List.mem_cons.mp inside with rfl | inside
    · exact .refl _
    · rw [expressionText]
      rcases List.mem_append.mp inside with inside | inside
      · exact (within_expressionText target inside).before.before.before.before.before
      · obtain ⟨text, listed, within⟩ := within_expressionTexts arguments inside
        exact within.trans (Within.intercalate listed).behind.before
  | .binary left operator right, inside => by
    rw [Expr.parts] at inside
    rcases List.mem_cons.mp inside with rfl | inside
    · exact .refl _
    · rw [expressionText]
      rcases List.mem_append.mp inside with inside | inside
      · exact (within_operand left (within_expressionText left inside)).before.before.before.before
      · exact (within_operand right (within_expressionText right inside)).behind

theorem within_expressionTexts {part : Expr} : ∀ es : List Expr, part ∈ exprParts es →
    ∃ text ∈ expressionTexts imports es, Within (expressionText imports part) text
  | [], inside => nomatch inside
  | e :: rest, inside => by
    rw [exprParts] at inside
    rw [expressionTexts]
    rcases List.mem_append.mp inside with here | later
    · exact ⟨_, List.mem_cons_self, within_expressionText e here⟩
    · obtain ⟨text, listed, within⟩ := within_expressionTexts rest later
      exact ⟨text, List.mem_cons_of_mem _ listed, within⟩

end

theorem within_ownTypes {type : TypeRef} {e : Expr} (own : type ∈ e.ownTypes) :
    Within (typeText imports type) (expressionText imports e) := by
  cases e with
  | typeName named =>
    rw [List.mem_singleton.mp own]
    exact .refl _
  | create created arguments =>
    rw [List.mem_singleton.mp own, expressionText]
    exact (Within.refl _).behind.before.before.before
  | _ => cases own

/-! ## Texts in rows -/

/-- A text is a stretch of one of the rows. -/
def Shows (rows : List Row) (text : String) : Prop := ∃ r ∈ rows, Within text r.text

namespace Shows

variable {rows rows' : List Row} {text : String}

theorem here {whole : String} (inside : Within text whole) : Shows (row whole :: rows) text :=
  ⟨row whole, List.mem_cons_self, inside⟩

theorem later {r : Row} (shown : Shows rows text) : Shows (r :: rows) text := by
  obtain ⟨r', listed, inside⟩ := shown
  exact ⟨r', List.mem_cons_of_mem r listed, inside⟩

theorem before (shown : Shows rows text) : Shows (rows ++ rows') text := by
  obtain ⟨r, listed, inside⟩ := shown
  exact ⟨r, List.mem_append_left _ listed, inside⟩

theorem behind (shown : Shows rows' text) : Shows (rows ++ rows') text := by
  obtain ⟨r, listed, inside⟩ := shown
  exact ⟨r, List.mem_append_right _ listed, inside⟩

theorem within {part : String} (shown : Shows rows text) (inside : Within part text) :
    Shows rows part := by
  obtain ⟨r, listed, outer⟩ := shown
  exact ⟨r, listed, inside.trans outer⟩

theorem braced (shown : Shows rows text) : Shows (bracedRows rows) text := by
  obtain ⟨r, listed, inside⟩ := shown
  have moved : Shows (deeper rows) text :=
    ⟨{ r with depth := r.depth + 1 }, List.mem_map.mpr ⟨r, listed, rfl⟩, inside⟩
  exact moved.before.later

theorem separated {groups : List (List Row)} (shown : Shows rows text) (among : rows ∈ groups) :
    Shows (separatedRows groups) text := by
  induction groups with
  | nil => cases among
  | cons first rest ih =>
    cases rest with
    | nil => rwa [← List.mem_singleton.mp among]
    | cons second rest =>
      rcases List.mem_cons.mp among with rfl | among
      · exact shown.before
      · exact (ih among).later.behind

end Shows

theorem within_initializerText {value : Option Expr} {e : Expr} (given : e ∈ value.toList) :
    Within (expressionText imports e) (initializerText imports value) := by
  rw [Option.mem_toList] at given
  cases given
  exact (Within.refl _).behind

theorem shows_ownExpressions {s : Stmt} {e : Expr} (own : e ∈ s.ownExpressions) :
    Shows (statementRows imports s) (expressionText imports e) := by
  cases s with
  | declare type name value =>
    rw [statementRows]
    exact .here (within_initializerText own).behind.before
  | assign left right =>
    rw [statementRows]
    rcases List.mem_cons.mp own with rfl | own
    · exact .here (Within.refl _).before.before.before
    · rw [List.mem_singleton.mp own]
      exact .here (Within.refl _).behind.before
  | condition test whenTrue whenFalse =>
    rw [List.mem_singleton.mp own, statementRows]
    exact .here (Within.refl _).behind.before
  | returns value =>
    rw [Stmt.ownExpressions, Option.mem_toList] at own
    cases own
    rw [statementRows]
    exact .here (Within.refl _).behind.before
  | expression value =>
    rw [List.mem_singleton.mp own, statementRows]
    exact .here (Within.refl _).before
  | foreign node => cases own

theorem shows_ownTypes {s : Stmt} {type : TypeRef} (own : type ∈ s.ownTypes) :
    Shows (statementRows imports s) (typeText imports type) := by
  cases s with
  | declare other name value =>
    rw [List.mem_singleton.mp own, statementRows]
    exact .here (Within.refl _).before.before.before.before
  | _ => cases own

mutual

/-- The rows of a statement show what the rows of its parts show. -/
theorem shows_statementRows {part : Stmt} {text : String}
    (shown : Shows (statementRows imports part) text) : ∀ s : Stmt, part ∈ s.parts →
    Shows (statementRows imports s) text
  | .declare _ _ _, inside | .assign _ _, inside | .returns _, inside | .expression _, inside
  | .foreign _, inside => by
    rw [Stmt.parts, List.mem_singleton] at inside
    exact inside ▸ shown
  | .condition test whenTrue whenFalse, inside => by
    rw [Stmt.parts] at inside
    rcases List.mem_cons.mp inside with rfl | inside
    · exact shown
    · rw [statementRows]
      refine .later ?_
      rcases List.mem_append.mp inside with inside | inside
      · exact (shows_statementsRows shown whenTrue inside).braced.before
      · refine .behind ?_
        cases whenFalse with
        | nil => cases inside
        | cons s rest => exact (shows_statementsRows shown (s :: rest) inside).braced.later

theorem shows_statementsRows {part : Stmt} {text : String}
    (shown : Shows (statementRows imports part) text) : ∀ body : List Stmt, part ∈ stmtParts body →
    Shows (statementsRows imports body) text
  | [], inside => nomatch inside
  | s :: rest, inside => by
    rw [stmtParts] at inside
    rw [statementsRows]
    rcases List.mem_append.mp inside with here | later
    · exact (shows_statementRows shown s here).before
    · exact (shows_statementsRows shown rest later).behind

end

theorem shows_accessorRows {a : Accessor} {keyword text : String} {part : Stmt}
    (shown : Shows (statementRows imports part) text) (inside : part ∈ stmtParts a.statements) :
    Shows (accessorRows imports keyword a) text := by
  unfold Accessor.statements at inside
  unfold accessorRows
  split at inside
  · rename_i present
    rw [if_pos present]
    exact (shows_statementsRows shown a.body inside).braced.later
  · cases inside

/-- The rows of a member show what the rows of its statements show. -/
theorem shows_memberRows {m : Member} {text : String} {part : Stmt}
    (shown : Shows (statementRows imports part) text) (inside : part ∈ stmtParts m.statements) :
    Shows (memberRows imports m) text := by
  cases m with
  | field _ | foreign _ _ => cases inside
  | property p =>
    rw [Member.statements, stmtParts_append, List.mem_append] at inside
    rcases inside with inside | inside
    · exact (shows_accessorRows shown inside).before.braced.later
    · exact (shows_accessorRows shown inside).behind.braced.later
  | method m => exact (shows_statementsRows shown m.body inside).braced.later

theorem shows_declaredTypes {m : Member} {type : TypeRef} (declared : type ∈ m.declaredTypes) :
    Shows (memberRows imports m) (typeText imports type) := by
  cases m with
  | field f =>
    rw [List.mem_singleton.mp declared]
    exact .here (Within.refl _).behind.before.before.before.before
  | property p =>
    rw [List.mem_singleton.mp declared]
    exact .here (Within.refl _).behind.before.before
  | method m =>
    rcases List.mem_cons.mp declared with rfl | parameter
    · exact .here (Within.refl _).behind.before.before.before.before.before
    · obtain ⟨p, listed, rfl⟩ := List.mem_map.mp parameter
      have within : Within (typeText imports p.type) (parameterText imports p) :=
        (Within.refl _).before.before
      exact .here (within.trans (Within.intercalate
        (List.mem_map.mpr ⟨p, listed, rfl⟩))).behind.before
  | foreign name node => cases declared

theorem shows_expressions {m : Member} {e : Expr} (inside : e ∈ m.expressions) :
    Shows (memberRows imports m) (expressionText imports e) := by
  have whole : ∀ outer ∈ m.initializer.toList ++ (stmtParts m.statements).flatMap Stmt.ownExpressions,
      Shows (memberRows imports m) (expressionText imports outer) := by
    intro outer among
    rcases List.mem_append.mp among with initial | own
    · cases m with
      | field f => exact .here (within_initializerText initial).behind.before
      | _ => cases initial
    · obtain ⟨s, part, own⟩ := List.mem_flatMap.mp own
      exact shows_memberRows (shows_ownExpressions own) part
  obtain ⟨outer, among, part⟩ := exists_mem_of_mem_exprParts inside
  exact (whole outer among).within (within_expressionText outer part)

theorem shows_classRows {c : ClassDecl} {m : Member} {text : String} (listed : m ∈ c.members)
    (shown : Shows (memberRows imports m) text) : Shows (classRows imports c) text :=
  (shown.separated (List.mem_map.mpr ⟨m, listed, rfl⟩)).braced.later

/-- **Each type that a class refers to** is shown by its rows. -/
theorem shows_typeReferences {c : ClassDecl} {type : TypeRef} (inside : type ∈ c.typeReferences) :
    Shows (classRows imports c) (typeText imports type) := by
  obtain ⟨whole, among, part⟩ := exists_mem_of_mem_typeParts inside
  refine Shows.within ?_ (within_typeText whole part)
  rw [List.mem_append, List.mem_append] at among
  rcases among with (declared | bound) | named
  · obtain ⟨m, listed, declared⟩ := List.mem_flatMap.mp declared
    exact shows_classRows listed (shows_declaredTypes declared)
  · obtain ⟨m, listed, bound⟩ := List.mem_flatMap.mp bound
    obtain ⟨s, part, own⟩ := List.mem_flatMap.mp bound
    exact shows_classRows listed (shows_memberRows (shows_ownTypes own) part)
  · obtain ⟨e, among, own⟩ := List.mem_flatMap.mp named
    obtain ⟨m, listed, among⟩ := List.mem_flatMap.mp among
    exact shows_classRows listed ((shows_expressions among).within (within_ownTypes own))

/-! ## Types kept apart -/

/-- Types of the list that are printed alike are the same. -/
def KeepsApart (imports : List String) (types : List TypeRef) : Prop :=
  ∀ first ∈ types, ∀ second ∈ types,
    typeText imports first = typeText imports second → first = second

mutual

/-- Parts of parts are parts. -/
theorem mem_parts_trans {inner part : TypeRef} (inside : inner ∈ part.parts) :
    ∀ type : TypeRef, part ∈ type.parts → inner ∈ type.parts
  | .mk name arguments, among => by
    rw [TypeRef.parts] at among ⊢
    rcases List.mem_cons.mp among with rfl | among
    · rwa [TypeRef.parts] at inside
    · exact List.mem_cons_of_mem _ (mem_typeParts_trans inside arguments among)

theorem mem_typeParts_trans {inner part : TypeRef} (inside : inner ∈ part.parts) :
    ∀ types : List TypeRef, part ∈ typeParts types → inner ∈ typeParts types
  | [], among => nomatch among
  | type :: rest, among => by
    rw [typeParts] at among ⊢
    exact List.mem_append.mpr ((List.mem_append.mp among).imp (mem_parts_trans inside type)
      (mem_typeParts_trans inside rest))

end

/-- **Types are kept apart** exactly if no two of them blur. -/
theorem keepsApart_iff {types : List TypeRef}
    (bare : ∀ type ∈ typeParts types, IsBare type.name)
    (qualified : ∀ type ∈ typeParts types, namespaceOf type.name ≠ "") :
    KeepsApart imports (typeParts types) ↔
      ∀ first ∈ typeParts types, ∀ second ∈ typeParts types, ¬ Blurs imports first second := by
  constructor
  · intro apart first among second among' blurs
    have same := apart first among second among'
      (blurs.typeText_eq (qualified first among) (qualified second among'))
    exact blurs.1.1 (congrArg TypeRef.name same)
  · intro clear first among second among' same
    have names {type : TypeRef} (among : type ∈ typeParts types) :
        ∀ name ∈ typeNames type, IsBare name := by
      rw [typeNames_eq_map, List.forall_mem_map]
      exact fun part inside => bare part (mem_typeParts_trans inside types among)
    refine eq_of_printedType first second (fun part inside => ?_) (fun part inside => ?_)
      (fun part inside part' inside' => ?_) ((typeText_eq_iff (names among) (names among')).mp same)
    · exact qualified part (mem_typeParts_trans inside types among)
    · exact qualified part (mem_typeParts_trans inside types among')
    · exact clear part (mem_typeParts_trans inside types among) part'
        (mem_typeParts_trans inside' types among')

/-! ## Emissions -/

/-- What an emission makes of the types that a class refers to. -/
structure ShowsTypes (words : ReservedWords) (imports : List String) (c : ClassDecl)
    (result : Except Failure String) : Prop where
  /-- It is accepted if nothing is wrong with a single name, number or node, whatever the types. -/
  accepted_iff : (∃ text, result = .ok text) ↔ ∀ v ∈ c.visits, causeAt words v.site = none
  /-- Its text has rows, and shows in them each type as it is printed under the imports. -/
  shown_of_ok : ∀ text, result = .ok text →
    text = page (classRows imports c) ∧
      ∀ type ∈ c.typeReferences, Shows (classRows imports c) (typeText imports type)
  /-- If all types are in namespaces, those that are printed alike are the same exactly if no two of
  them have one short name and arguments that are printed alike. -/
  apart_iff : (∀ type ∈ c.typeReferences, IsBare type.name ∧ namespaceOf type.name ≠ "") →
    (KeepsApart imports c.typeReferences ↔
      ∀ first ∈ c.typeReferences, ∀ second ∈ c.typeReferences, ¬ Blurs imports first second)

/-- **Types in a C# text.** Under any imports, types in namespaces are printed by one name exactly if
they are the same or clash, and the text of a class keeps its types apart exactly if none of them
blur. -/
theorem emission_shows_types (words : ReservedWords) :
    (∀ (imports : List String) (first second : String), namespaceOf first ≠ "" →
      namespaceOf second ≠ "" →
      (csharpTypeName imports first = csharpTypeName imports second ↔
        first = second ∨ Clash imports first second)) ∧
    ∀ (c : ClassDecl) (imports : List String) (emitter : CSharpEmitter),
      ShowsTypes words imports c
        ((CSharpEmitter.emitType (.ok words) c imports).run emitter).1 := by
  constructor
  · intro imports first second qualified qualified'
    exact csharpTypeName_eq_iff qualified qualified'
  · intro c imports emitter
    have performs : Performs imports (classDecl (.ok words) c) () (defectsOn words c.visits)
        (classRows imports c) := performs_classDecl c
    have accepted := (exists_text_iff performs emitter).trans defectsOn_eq_nil_iff
    refine ⟨accepted, ?shown, ?apart⟩
    case shown =>
      intro text ok
      have printed := text_of_clean performs emitter (defectsOn_eq_nil_iff.mpr (accepted.mp ⟨text, ok⟩))
      exact ⟨Except.ok.inj (ok.symm.trans printed), fun type among => shows_typeReferences among⟩
    case apart =>
      intro fit
      exact keepsApart_iff (fun type among => (fit type among).1) fun type among => (fit type among).2

/-- A class with two fields of the types `first` and `second`. -/
def paired (first second : String) : ClassDecl where
  name := "Mixed"
  members := [
    .field { name := "a", type := .plain first },
    .field { name := "b", type := .plain second }]

theorem typeReferences_paired (first second : String) :
    (paired first second).typeReferences = [.plain first, .plain second] :=
  rfl

/-- Types of imported namespaces are told apart by their simple names. -/
theorem emission_shows_types_apart :
    csharpTypeName ["First", "Second"] "First.Widget" ≠
        csharpTypeName ["First", "Second"] "Second.Gadget" ∧
      KeepsApart ["First", "Second"] (paired "First.Widget" "Second.Gadget").typeReferences := by
  have clear : ¬ Clash ["First", "Second"] "First.Widget" "Second.Gadget" :=
    fun clash => absurd clash.shortName_eq (by decide)
  have clear' : ¬ Clash ["First", "Second"] "Second.Gadget" "First.Widget" :=
    fun clash => absurd clash.shortName_eq (by decide)
  constructor
  · intro same
    have alike := ((emission_shows_types .standard).1 ["First", "Second"] "First.Widget"
      "Second.Gadget" (by decide) (by decide)).mp same
    exact alike.elim (by decide) clear
  · refine (((emission_shows_types .standard).2 (paired "First.Widget" "Second.Gadget")
      ["First", "Second"] {}).apart_iff ?_).mpr ?_
    · rw [typeReferences_paired]
      simp only [List.forall_mem_cons]
      exact ⟨⟨by decide, by decide⟩, ⟨by decide, by decide⟩, nofun⟩
    · rw [typeReferences_paired]
      simp only [List.forall_mem_cons]
      exact ⟨⟨fun blurs => blurs.1.1 rfl, fun blurs => clear blurs.1, nofun⟩,
        ⟨fun blurs => clear' blurs.1, fun blurs => blurs.1.1 rfl, nofun⟩, nofun⟩

/-- With both namespaces imported, two types of one simple name are printed alike, and the class is
accepted. -/
theorem emission_shows_types_mixed :
    ((CSharpEmitter.emitType (.ok .standard) (paired "First.Widget" "Second.Widget")
        ["First", "Second"]).run {}).1 =
        .ok "public class Mixed\n\x7b\n    private Widget a;\n\n    private Widget b;\n\x7d\n" ∧
      Clash ["First", "Second"] "First.Widget" "Second.Widget" ∧
      ¬ KeepsApart ["First", "Second"] (paired "First.Widget" "Second.Widget").typeReferences := by
  refine ⟨?text, ?clash, ?blurred⟩
  case text =>
    have clean : defectsOn .standard (paired "First.Widget" "Second.Widget").visits = [] := by
      decide +kernel
    exact text_of_clean (performs_classDecl _) {} clean
  case clash => exact ⟨by decide, "Widget", by decide, by decide⟩
  case blurred =>
    intro apart
    rw [typeReferences_paired] at apart
    have same := apart (.plain "First.Widget") List.mem_cons_self (.plain "Second.Widget")
      (List.mem_cons_of_mem _ List.mem_cons_self) (by decide)
    exact absurd (congrArg TypeRef.name same) (by decide)

end CSharp

end ServiceWriter

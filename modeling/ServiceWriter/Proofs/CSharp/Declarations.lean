import ServiceWriter.Proofs.CSharp.LineEnds
import ServiceWriter.Proofs.CSharp.Outline

/-!
# Members that a C# class declares

The outline of a class that is accepted has one member for each member of the class, in the same
order, and of the same kind. The name of the member stands in its first line, with a blank before it
and the end of the line, a parameter list, an initial value or a semicolon behind it
(`MemberOutline.Declares`). If no name of a type holds a sign that ends a declared name, the name is
read off the line (`declaredName`).
-/

set_option autoImplicit false

namespace ServiceWriter

open Text

namespace CSharp

/-! ## Declared names -/

/-- The signs that come after a declared name, with or without a blank between. -/
def nameEnds : List Char := [';', '=', '(']

/-- A character that is no such sign. -/
def isInside (c : Char) : Bool := !nameEnds.contains c

/-- The name that a line declares: the longest identifier before the first sign that ends a name, and
before the blanks there. -/
def declaredName (line : String) : String :=
  let front := (line.toList.takeWhile isInside).reverse.dropWhile (· == ' ')
  String.ofList (front.takeWhile isIdentifierPart).reverse

/-- The line that a member begins with. -/
def MemberOutline.line : MemberOutline → String
  | .field line => line
  | .property header _ _ => header
  | .method header _ => header

/-- The text closes a declared name: it holds no more than blanks before the first sign that does. -/
def ClosesName (text : String) : Prop := ∀ c ∈ text.toList.takeWhile isInside, c = ' '

/-- The name stands in the line of the member as a declared name does. -/
def MemberOutline.Declares (o : MemberOutline) (name : String) : Prop :=
  ∃ front back, o.line = front ++ " " ++ name ++ back ∧ ClosesName back

theorem isInside_of_isIdentifierPart {c : Char} (part : isIdentifierPart c = true) :
    isInside c = true := by
  have signs : ∀ c ∈ nameEnds, isIdentifierPart c = false := forall_mem_of_all (by decide)
  by_contra sign
  rw [isInside, Bool.not_eq_true', Bool.not_eq_false, List.contains_iff_mem] at sign
  rw [signs c sign] at part
  cases part

/-- **A declared name is read off its line**, if no sign before it ends a name. -/
theorem declaredName_eq {front name back : String}
    (plain : ∀ c ∈ front.toList, isInside c = true) (valid : isIdentifier name = true)
    (closes : ClosesName back) : declaredName (front ++ " " ++ name ++ back) = name := by
  have parts := isIdentifierPart_of_mem valid
  have chars : (front ++ " " ++ name ++ back).toList =
      (front.toList ++ ' ' :: name.toList) ++ back.toList := by
    simp
  have inside : ∀ c ∈ front.toList ++ ' ' :: name.toList, isInside c = true := by
    intro c listed
    rcases List.mem_append.mp listed with here | here
    · exact plain c here
    rcases List.mem_cons.mp here with rfl | here
    · rfl
    · exact isInside_of_isIdentifierPart (parts c here)
  have reversed : ((front ++ " " ++ name ++ back).toList.takeWhile isInside).reverse =
      (back.toList.takeWhile isInside).reverse ++
        (name.toList.reverse ++ ' ' :: front.toList.reverse) := by
    rw [chars, List.takeWhile_append_of_pos inside]
    simp
  have blanks : ∀ c ∈ (back.toList.takeWhile isInside).reverse, (c == ' ') = true :=
    fun c listed => beq_iff_eq.mpr (closes c (List.mem_reverse.mp listed))
  have notBlank : Stops (· == ' ') (name.toList.reverse ++ ' ' :: front.toList.reverse) := by
    obtain ⟨first, others, split, _⟩ := exists_head valid
    obtain ⟨last, init, same⟩ : ∃ last init, name.toList.reverse = last :: init :=
      List.exists_cons_of_ne_nil (by simp [split])
    have part : isIdentifierPart last = true :=
      parts last (List.mem_reverse.mp (same ▸ List.mem_cons_self))
    rw [same, List.cons_append, stops_cons, beq_eq_false_iff_ne]
    rintro rfl
    exact absurd part (by decide)
  have named : ∀ c ∈ name.toList.reverse, isIdentifierPart c = true :=
    fun c listed => parts c (List.mem_reverse.mp listed)
  unfold declaredName
  simp only
  rw [reversed, dropWhile_append_stops blanks notBlank,
    takeWhile_append_stops named (stops_cons.mpr (by decide)), List.reverse_reverse,
    String.ofList_toList]

/-! ## Members -/

/-- The names of the types that a line gives before the name of the member. -/
def typeNamesBefore : Member → List String
  | .field f => typeNames f.type
  | .property p => typeNames p.type
  | .method m => typeNames m.returnType
  | .foreign _ _ => []

variable (imports : List String)

/-- What stands before the blank before the name of a member. -/
def declarationFront : Member → String
  | .field f => modifiers f.access f.isStatic ++ " " ++ typeText imports f.type
  | .property p => p.access.keyword ++ " " ++ typeText imports p.type
  | .method m => modifiers m.access m.isStatic ++ " " ++ typeText imports m.returnType
  | .foreign _ _ => ""

/-- What stands behind the name of a member. -/
def declarationBack : Member → String
  | .field f => initializerText imports f.initializer ++ ";"
  | .method m => "(" ++ ", ".intercalate (m.parameters.map (parameterText imports)) ++ ")"
  | .property _ | .foreign _ _ => ""

variable {imports}

theorem line_of_memberOutline {m : Member} {o : MemberOutline}
    (outlined : memberOutline imports m = some o) :
    o.line = declarationFront imports m ++ " " ++ m.name ++ declarationBack imports m := by
  cases m with
  | field f =>
    cases outlined
    simp only [MemberOutline.line, fieldLine, declarationFront, declarationBack, Member.name,
      String.append_assoc]
  | property p =>
    cases outlined
    simp only [MemberOutline.line, propertyHeader, declarationFront, declarationBack, Member.name,
      String.append_assoc, String.append_empty]
  | method m =>
    cases outlined
    simp only [MemberOutline.line, methodHeader, declarationFront, declarationBack, Member.name,
      String.append_assoc]
  | foreign name node => cases outlined

theorem closesName_declarationBack (m : Member) : ClosesName (declarationBack imports m) := by
  have sign {c : Char} {rest : List Char} (ends : c ∈ nameEnds) :
      (c :: rest).takeWhile isInside = [] := by
    have outside : isInside c = false := by
      rw [isInside, List.contains_iff_mem.mpr ends]
      rfl
    rw [List.takeWhile_cons_of_neg (by rw [outside]; exact Bool.false_ne_true)]
  unfold ClosesName
  cases m with
  | field f =>
    cases given : f.initializer with
    | none =>
      simp [declarationBack, given, initializerText, sign (show ';' ∈ nameEnds by decide)]
    | some e =>
      have blank : isInside ' ' = true := by decide
      simp [declarationBack, given, initializerText, List.takeWhile_cons_of_pos blank,
        sign (show '=' ∈ nameEnds by decide)]
  | method m =>
    simp [declarationBack, sign (show '(' ∈ nameEnds by decide)]
  | property p | foreign name node => simp [declarationBack]

theorem lacks_modifiers {sign : Char} (ends : sign ∈ nameEnds) (access : Access) (isStatic : Bool) :
    Lacks sign (modifiers access isStatic) := by
  have all : ∀ sign ∈ nameEnds, ∀ isStatic : Bool,
      sign ∉ (modifiers .everyone isStatic).toList ∧ sign ∉ (modifiers .owner isStatic).toList ∧
        sign ∉ (modifiers .derived isStatic).toList ∧
          sign ∉ (modifiers .assembly isStatic).toList :=
    forall_mem_of_all (by decide)
  obtain ⟨everyone, owner, derived, assembly⟩ := all sign ends isStatic
  cases access with
  | everyone => exact everyone
  | owner => exact owner
  | derived => exact derived
  | assembly => exact assembly

theorem lacks_declarationType {sign : Char} (ends : sign ∈ nameEnds) {type : TypeRef}
    (plain : ∀ name ∈ typeNames type, sign ∉ name.toList) : Lacks sign (typeText imports type) := by
  have signs : ∀ sign ∈ nameEnds, ∀ text ∈ ["<", ", ", ">"], sign ∉ text.toList :=
    forall_mem_of_all (by decide)
  have keywords : ∀ sign ∈ nameEnds, ∀ entry ∈ csharpKeywords, sign ∉ entry.2.toList :=
    forall_mem_of_all (by decide)
  exact .of_madeOf (madeOf_typeText (signs sign ends _ (by decide)) (signs sign ends _ (by decide))
    (signs sign ends _ (by decide)) type fun name named =>
      lacks_csharpTypeName (keywords sign ends) (plain name named))

/-- Nothing before the name of a member ends a name, if no name of a type does. -/
theorem isInside_declarationFront {m : Member}
    (plain : ∀ name ∈ typeNamesBefore m, ∀ sign ∈ nameEnds, sign ∉ name.toList) :
    ∀ c ∈ (declarationFront imports m).toList, isInside c = true := by
  have lacks : ∀ sign ∈ nameEnds, Lacks sign (declarationFront imports m) := by
    intro sign ends
    have blank : sign ≠ ' ' := by
      rintro rfl
      exact absurd ends (by decide)
    have together {words : String} {type : TypeRef} (first : Lacks sign words)
        (named : ∀ name ∈ typeNames type, sign ∉ name.toList) :
        Lacks sign (words ++ " " ++ typeText imports type) := by
      have second : Lacks sign (typeText imports type) := lacks_declarationType ends named
      unfold Lacks at *
      simp [first, second, blank]
    cases m with
    | field f =>
      exact together (lacks_modifiers ends f.access f.isStatic) fun name named =>
        plain name named sign ends
    | property p =>
      exact together (lacks_modifiers ends p.access false) fun name named =>
        plain name named sign ends
    | method m =>
      exact together (lacks_modifiers ends m.access m.isStatic) fun name named =>
        plain name named sign ends
    | foreign name node => exact List.not_mem_nil
  intro c listed
  rw [isInside, Bool.not_eq_true', ← Bool.not_eq_true, List.contains_iff_mem]
  exact fun ends => lacks c ends listed

/-- How the members of an outline declare those of a class. -/
structure DeclaresMembers (imports : List String) (c : ClassDecl) (o : ClassOutline) : Prop where
  /-- There is one for each, of its kind, and with its name as a declared name. -/
  each : List.Forall₂ (fun m member => memberOutline imports m = some member ∧
    member.Declares m.name) c.members o.members
  /-- The names are read off the lines, if no name of a type before them ends a name. -/
  names : (∀ m ∈ c.members, ∀ name ∈ typeNamesBefore m, ∀ sign ∈ nameEnds, sign ∉ name.toList) →
    o.members.map (fun member => declaredName member.line) = c.members.map Member.name

theorem memberOutline_of_clean {words : ReservedWords} {m : Member}
    (clean : ∀ site ∈ m.sites, causeAt words site = none) :
    ∃ o, memberOutline imports m = some o ∧ isIdentifier m.name = true := by
  cases m with
  | field f => exact ⟨_, rfl, (causeAt_member.mp (clean (.member f.name) List.mem_cons_self)).1⟩
  | property p => exact ⟨_, rfl, (causeAt_member.mp (clean (.member p.name) List.mem_cons_self)).1⟩
  | method m => exact ⟨_, rfl, (causeAt_member.mp (clean (.member m.name) List.mem_cons_self)).1⟩
  | foreign name node =>
    have wrong := clean (.foreign node.kind) List.mem_cons_self
    cases wrong

/-- What is kept of a list of which everything is kept. -/
theorem forall₂_filterMap {α β : Type} {f : α → Option β} {related : α → β → Prop} {l : List α}
    (all : ∀ a ∈ l, ∃ b, f a = some b ∧ related a b) : List.Forall₂ related l (l.filterMap f) := by
  induction l with
  | nil => exact .nil
  | cons a rest ih =>
    rw [List.forall_mem_cons] at all
    obtain ⟨b, kept, here⟩ := all.1
    rw [List.filterMap_cons_some kept]
    exact .cons here (ih all.2)

/-- **The outline of a class declares its members**, if nothing is wrong with the class. -/
theorem declaresMembers_classOutline {words : ReservedWords} {c : ClassDecl}
    (clean : ∀ v ∈ c.visits, causeAt words v.site = none) :
    DeclaresMembers imports c (classOutline imports c) := by
  have sites := (ClassDecl.forall_visits_iff (causeAt words · = none)).mp clean
  constructor
  case each =>
    refine forall₂_filterMap fun m listed => ?_
    obtain ⟨o, outlined, _⟩ := memberOutline_of_clean (sites.2 m listed)
    exact ⟨o, outlined, outlined, _, _, line_of_memberOutline outlined, closesName_declarationBack m⟩
  case names =>
    intro plain
    have named : List.Forall₂ (fun m o => m.name = declaredName o.line) c.members
        (classOutline imports c).members := by
      refine forall₂_filterMap fun m listed => ?_
      obtain ⟨o, outlined, valid⟩ := memberOutline_of_clean (sites.2 m listed)
      refine ⟨o, outlined, ?_⟩
      rw [line_of_memberOutline outlined]
      exact (declaredName_eq (isInside_declarationFront (plain m listed)) valid
        (closesName_declarationBack m)).symm
    have names : List.Forall₂ (· = ·) (c.members.map Member.name)
        ((classOutline imports c).members.map fun o => declaredName o.line) :=
      List.forall₂_map_left_iff.mpr (List.forall₂_map_right_iff.mpr named)
    rw [List.forall₂_eq_eq_eq] at names
    exact names.symm

end CSharp

end ServiceWriter

import ServiceWriter.Proofs.CSharp.Nesting
import ServiceWriter.Proofs.CSharp.ReadingTypes
import ServiceWriter.Proofs.Walk.Clean

/-!
# The outline of a C# class

What the lines of a class show of its structure is its outline: the header, and for each member its
line, or its header and what is nested behind it, down to single lines of statements and to
conditions with two branches. The outline is read off the lines (`readClass`), whatever the texts of
names of types and of expressions are. So a class that is accepted is written in lines that nest, and
that no class of another outline is written in (`emission_outline`).
-/

set_option autoImplicit false

namespace ServiceWriter

open Text

namespace CSharp

/-! ## Outlines -/

/-- A statement: one line, or a condition with its branches. The second branch is empty if there is
no `else`. -/
inductive StatementOutline where
  | leaf (line : String)
  | branch (condition : String) (whenTrue whenFalse : List StatementOutline)

/-- A member: the line of a field, a property with the accessors it has, or a method. -/
inductive MemberOutline where
  | field (line : String)
  | property (header : String) (getter setter : Option (List StatementOutline))
  | method (header : String) (body : List StatementOutline)

/-- A class. -/
structure ClassOutline where
  header : String
  members : List MemberOutline

variable (imports : List String)

/-- The one line of a statement that is no condition. -/
def statementLine : Stmt → String
  | .declare type name value =>
    typeText imports type ++ " " ++ name ++ initializerText imports value ++ ";"
  | .assign left right =>
    expressionText imports left ++ " = " ++ expressionText imports right ++ ";"
  | .returns (some value) => "return " ++ expressionText imports value ++ ";"
  | .returns none => "return;"
  | .expression value => expressionText imports value ++ ";"
  | .condition _ _ _ | .foreign _ => ""

mutual

/-- The outline of a statement, if it is of a kind that belongs there. -/
def statementOutline : Stmt → Option StatementOutline
  | .condition test whenTrue whenFalse =>
    some (.branch (expressionText imports test) (bodyOutline whenTrue) (bodyOutline whenFalse))
  | .foreign _ => none
  | .declare type name value => some (.leaf (statementLine imports (.declare type name value)))
  | .assign left right => some (.leaf (statementLine imports (.assign left right)))
  | .returns value => some (.leaf (statementLine imports (.returns value)))
  | .expression value => some (.leaf (statementLine imports (.expression value)))

/-- The outlines of a list of statements. -/
def bodyOutline : List Stmt → List StatementOutline
  | [] => []
  | s :: rest => (statementOutline s).toList ++ bodyOutline rest

end

/-- The outline of an accessor, if the property has it. -/
def accessorOutline (a : Accessor) : Option (List StatementOutline) :=
  if a.isPresent then some (bodyOutline imports a.body) else none

/-- The line of a field. -/
def fieldLine (f : Field) : String :=
  modifiers f.access f.isStatic ++ " " ++ typeText imports f.type ++ " " ++ f.name ++
    initializerText imports f.initializer ++ ";"

/-- The line before the accessors of a property. -/
def propertyHeader (p : Property) : String :=
  p.access.keyword ++ " " ++ typeText imports p.type ++ " " ++ p.name

/-- The line before the body of a method. -/
def methodHeader (m : Method) : String :=
  modifiers m.access m.isStatic ++ " " ++ typeText imports m.returnType ++ " " ++ m.name ++ "(" ++
    ", ".intercalate (m.parameters.map (parameterText imports)) ++ ")"

/-- The line before the members of a class. -/
def classHeader (c : ClassDecl) : String :=
  c.access.keyword ++ (if c.isPartial then " partial" else "") ++ " class " ++ c.name

/-- The outline of a member, if it is of a kind that belongs there. -/
def memberOutline : Member → Option MemberOutline
  | .field f => some (.field (fieldLine imports f))
  | .property p =>
    some (.property (propertyHeader imports p) (accessorOutline imports p.getter)
      (accessorOutline imports p.setter))
  | .method m => some (.method (methodHeader imports m) (bodyOutline imports m.body))
  | .foreign _ _ => none

/-- The outline of a class. -/
def classOutline (c : ClassDecl) : ClassOutline :=
  ⟨classHeader c, c.members.filterMap (memberOutline imports)⟩

/-! ## Forests of a class -/

mutual

/-- The lines of a statement and of what comes after it. -/
def statementForest : Stmt → Forest → Forest
  | .condition test whenTrue whenFalse, after =>
    .headed ("if (" ++ expressionText imports test ++ ")") (bodyForest whenTrue)
      (if whenFalse.isEmpty then after else .headed "else" (bodyForest whenFalse) after)
  | .foreign _, after => after
  | .declare type name value, after =>
    .line (statementLine imports (.declare type name value)) after
  | .assign left right, after => .line (statementLine imports (.assign left right)) after
  | .returns value, after => .line (statementLine imports (.returns value)) after
  | .expression value, after => .line (statementLine imports (.expression value)) after

/-- The lines of a list of statements. -/
def bodyForest : List Stmt → Forest
  | [] => .nil
  | s :: rest => statementForest s (bodyForest rest)

end

/-- The lines of an accessor and of what comes after it. -/
def accessorForest (keyword : String) (a : Accessor) (after : Forest) : Forest :=
  if a.isPresent then .headed keyword (bodyForest imports a.body) after else after

/-- The lines of a member and of what comes after it. -/
def memberForest : Member → Forest → Forest
  | .field f, after => .line (fieldLine imports f) after
  | .property p, after =>
    .headed (propertyHeader imports p)
      (accessorForest imports "get" p.getter (accessorForest imports "set" p.setter .nil)) after
  | .method m, after => .headed (methodHeader imports m) (bodyForest imports m.body) after
  | .foreign _ _, after => after

/-- The lines of a list of members. -/
def membersForest : List Member → Forest
  | [] => .nil
  | [last] => memberForest imports last .nil
  | m :: rest => memberForest imports m (.line "" (membersForest rest))

/-- The lines of a class. -/
def classForest (c : ClassDecl) : Forest :=
  .headed (classHeader c) (membersForest imports c.members) .nil

variable {imports}

mutual

theorem rows_statementForest : ∀ (s : Stmt) (after : Forest),
    (statementForest imports s after).rows = statementRows imports s ++ after.rows
  | .condition test whenTrue whenFalse, after => by
    rw [statementForest, Forest.rows, rows_bodyForest whenTrue, statementRows, List.cons_append,
      List.append_assoc]
    cases whenFalse with
    | nil => rfl
    | cons s rest =>
      simp only [List.isEmpty_cons, Bool.false_eq_true, if_false]
      rw [Forest.rows, rows_bodyForest (s :: rest)]
      rfl
  | .foreign _, after => by rw [statementForest, statementRows, List.nil_append]
  | .declare _ _ _, after | .assign _ _, after | .returns none, after | .returns (some _), after
  | .expression _, after => by
    rw [statementForest, statementRows]
    rfl

theorem rows_bodyForest : ∀ body : List Stmt,
    (bodyForest imports body).rows = statementsRows imports body
  | [] => by rw [bodyForest, statementsRows, Forest.rows]
  | s :: rest => by
    rw [bodyForest, statementsRows, rows_statementForest s, rows_bodyForest rest]

end

theorem rows_accessorForest (keyword : String) (a : Accessor) (after : Forest) :
    (accessorForest imports keyword a after).rows =
      accessorRows imports keyword a ++ after.rows := by
  unfold accessorForest accessorRows
  split
  · rw [Forest.rows, rows_bodyForest]
    rfl
  · rfl

theorem rows_memberForest (m : Member) (after : Forest) :
    (memberForest imports m after).rows = memberRows imports m ++ after.rows := by
  cases m with
  | field f => rfl
  | property p =>
    rw [memberForest, Forest.rows, rows_accessorForest, rows_accessorForest, Forest.rows,
      List.append_nil]
    rfl
  | method m =>
    rw [memberForest, Forest.rows, rows_bodyForest]
    rfl
  | foreign name node => rfl

theorem rows_membersForest (members : List Member) :
    (membersForest imports members).rows =
      separatedRows (members.map (memberRows imports)) := by
  induction members with
  | nil => rfl
  | cons m rest ih =>
    cases rest with
    | nil =>
      rw [membersForest, rows_memberForest, Forest.rows, List.append_nil]
      rfl
    | cons second rest =>
      rw [membersForest, rows_memberForest, Forest.rows, ih]
      · rfl
      · exact List.cons_ne_nil _ _

/-- The rows of a class are those of its forest. -/
theorem rows_classForest (c : ClassDecl) : (classForest imports c).rows = classRows imports c := by
  rw [classForest, Forest.rows, rows_membersForest, Forest.rows, List.append_nil]
  rfl

/-! ## No text is a brace -/

/-- A text with one of the signs that a line ends in is plain. -/
theorem isPlainText_of_mem {text : String} {c : Char} (inside : c ∈ text.toList)
    (sign : c ∈ [';', ')', 'c', 's', 'e', 't']) : IsPlainText text := by
  have apart : ∀ c ∈ [';', ')', 'c', 's', 'e', 't'], c ≠ ' ' ∧ c ≠ '\x7b' ∧ c ≠ '\x7d' :=
    forall_mem_of_all (by decide)
  exact .inr ⟨c, inside, apart c sign⟩

theorem isPlainText_leaf (text : String) : IsPlainText (text ++ ";") :=
  isPlainText_of_mem (c := ';') (by simp) (by decide)

theorem isPlainText_header (text : String) : IsPlainText (text ++ ")") :=
  isPlainText_of_mem (c := ')') (by simp) (by decide)

mutual

theorem isPlain_statementForest : ∀ (s : Stmt) {after : Forest}, after.IsPlain →
    (statementForest imports s after).IsPlain
  | .condition test whenTrue whenFalse, after, plain => by
    rw [statementForest]
    refine ⟨isPlainText_header _, isPlain_bodyForest whenTrue, ?_⟩
    split
    · exact plain
    · have elseWord : IsPlainText "else" := isPlainText_of_mem (c := 'e') (by decide) (by decide)
      exact ⟨elseWord, isPlain_bodyForest whenFalse, plain⟩
  | .foreign _, after, plain => by
    rw [statementForest]
    exact plain
  | .declare _ _ _, after, plain | .assign _ _, after, plain | .returns (some _), after, plain
  | .expression _, after, plain => by
    rw [statementForest]
    exact ⟨isPlainText_leaf _, plain⟩
  | .returns none, after, plain => by
    rw [statementForest]
    exact ⟨isPlainText_leaf "return", plain⟩

theorem isPlain_bodyForest : ∀ body : List Stmt, (bodyForest imports body).IsPlain
  | [] => by
    rw [bodyForest]
    trivial
  | s :: rest => by
    rw [bodyForest]
    exact isPlain_statementForest s (isPlain_bodyForest rest)

end

theorem isPlain_accessorForest {keyword : String} (word : IsPlainText keyword) (a : Accessor)
    {after : Forest} (plain : after.IsPlain) :
    (accessorForest imports keyword a after).IsPlain := by
  unfold accessorForest
  split
  · exact ⟨word, isPlain_bodyForest a.body, plain⟩
  · exact plain

/-- The header of a property has a letter of the word for its access. -/
theorem isPlainText_propertyHeader (p : Property) : IsPlainText (propertyHeader imports p) := by
  unfold propertyHeader
  cases p.access with
  | everyone => exact isPlainText_of_mem (c := 'c') (by simp [Access.keyword]) (by decide)
  | owner | derived | assembly =>
    exact isPlainText_of_mem (c := 't') (by simp [Access.keyword]) (by decide)

theorem isPlain_memberForest (m : Member) {after : Forest} (plain : after.IsPlain) :
    (memberForest imports m after).IsPlain := by
  cases m with
  | field f => exact ⟨isPlainText_leaf _, plain⟩
  | property p =>
    have getWord : IsPlainText "get" := isPlainText_of_mem (c := 'e') (by decide) (by decide)
    have setWord : IsPlainText "set" := isPlainText_of_mem (c := 'e') (by decide) (by decide)
    have setter : (accessorForest imports "set" p.setter .nil).IsPlain :=
      isPlain_accessorForest setWord p.setter trivial
    exact ⟨isPlainText_propertyHeader p, isPlain_accessorForest getWord p.getter setter, plain⟩
  | method m => exact ⟨isPlainText_header _, isPlain_bodyForest m.body, plain⟩
  | foreign name node => exact plain

theorem isPlain_membersForest (members : List Member) :
    (membersForest imports members).IsPlain := by
  induction members with
  | nil => trivial
  | cons m rest ih =>
    cases rest with
    | nil => exact isPlain_memberForest m trivial
    | cons second rest => exact isPlain_memberForest m ⟨.inl rfl, ih⟩

theorem isPlain_classForest (c : ClassDecl) : (classForest imports c).IsPlain := by
  refine ⟨isPlainText_of_mem (c := 's') ?_ (by decide), isPlain_membersForest c.members, trivial⟩
  simp [classHeader]

/-! ## Reading an outline -/

/-- The condition in the header of an `if`. -/
def readCondition (header : String) : Option String :=
  match header.toList with
  | 'i' :: 'f' :: ' ' :: '(' :: rest =>
    if rest.getLast? = some ')' then some (String.ofList rest.dropLast) else none
  | _ => none

/-- Reads statements, and before them the branch of an `else` if they begin with one. -/
def readStatements : Forest → Option (Option (List StatementOutline) × List StatementOutline)
  | .nil => some (none, [])
  | .line text rest => do
    let (otherwise, statements) ← readStatements rest
    if otherwise.isSome then none else some (none, .leaf text :: statements)
  | .headed header inner rest => do
    let (dangling, body) ← readStatements inner
    let (otherwise, statements) ← readStatements rest
    if dangling.isSome then none
    else if header = "else" then
      if otherwise.isSome then none else some (some body, statements)
    else do
      let condition ← readCondition header
      some (none, .branch condition body (otherwise.getD []) :: statements)

/-- Reads the statements of a block. -/
def readBody (f : Forest) : Option (List StatementOutline) :=
  match readStatements f with
  | some (none, statements) => some statements
  | _ => none

/-- Reads the accessor under a keyword, if it comes first, and gives what comes after it. -/
def readAccessor (keyword : String) : Forest → Option (Option (List StatementOutline) × Forest)
  | .headed header inner rest =>
    if header = keyword then (readBody inner).map (some ·, rest)
    else some (none, .headed header inner rest)
  | f => some (none, f)

/-- Reads a member that has a block. The header of a method ends with its parameters. -/
def readHeaded (header : String) (inner : Forest) : Option MemberOutline :=
  if header.toList.getLast? = some ')' then
    (readBody inner).map (.method header)
  else do
    let (getter, rest) ← readAccessor "get" inner
    let (setter, rest) ← readAccessor "set" rest
    if rest = .nil then some (.property header getter setter) else none

/-- Reads members, with empty lines between them. -/
def readMembers : Forest → Option (List MemberOutline)
  | .nil => some []
  | .line text rest => do
    let members ← readMembers rest
    some (if text = "" then members else .field text :: members)
  | .headed header inner rest => do
    let m ← readHeaded header inner
    let members ← readMembers rest
    some (m :: members)

/-- Reads the outline of a class off its lines. -/
def readClass (lines : List String) : Option ClassOutline :=
  match readForest lines with
  | some (.headed header inner .nil) => (readMembers inner).map (⟨header, ·⟩)
  | _ => none

theorem readCondition_header (condition : String) :
    readCondition ("if (" ++ condition ++ ")") = some condition := by
  have chars : ("if (" ++ condition ++ ")").toList =
      'i' :: 'f' :: ' ' :: '(' :: (condition.toList ++ [')']) := by
    simp
  rw [readCondition, chars]
  simp

theorem readStatements_line {text : String} {after : Forest} {statements : List StatementOutline}
    (read : readStatements after = some (none, statements)) :
    readStatements (.line text after) = some (none, .leaf text :: statements) := by
  rw [readStatements, read]
  rfl

mutual

theorem readStatements_statementForest : ∀ (s : Stmt) {after : Forest}
    {statements : List StatementOutline}, readStatements after = some (none, statements) →
    readStatements (statementForest imports s after) =
      some (none, (statementOutline imports s).toList ++ statements)
  | .condition test whenTrue whenFalse, after, statements, read => by
    have first := readStatements_bodyForest whenTrue
    have branches : readStatements
        (if whenFalse.isEmpty then after else .headed "else" (bodyForest imports whenFalse) after) =
        some (if whenFalse.isEmpty then none else some (bodyOutline imports whenFalse),
          statements) := by
      split
      · exact read
      · rw [readStatements, readStatements_bodyForest whenFalse, read]
        rfl
    have notElse : "if (" ++ expressionText imports test ++ ")" ≠ "else" := by
      intro same
      have chars := congrArg String.toList same
      simp at chars
    rw [statementForest, statementOutline, readStatements, first, branches]
    simp only [Option.bind_eq_bind, Option.bind_some, Option.isSome_none, Bool.false_eq_true,
      if_false, if_neg notElse, readCondition_header]
    cases whenFalse with
    | nil =>
      rw [bodyOutline]
      rfl
    | cons s rest => rfl
  | .foreign _, after, statements, read => by
    rw [statementForest, statementOutline]
    exact read
  | .declare _ _ _, after, statements, read | .assign _ _, after, statements, read
  | .returns _, after, statements, read | .expression _, after, statements, read => by
    rw [statementForest, statementOutline]
    exact readStatements_line read

theorem readStatements_bodyForest : ∀ body : List Stmt,
    readStatements (bodyForest imports body) = some (none, bodyOutline imports body)
  | [] => by
    rw [bodyForest, bodyOutline]
    rfl
  | s :: rest => by
    rw [bodyForest, bodyOutline]
    exact readStatements_statementForest s (readStatements_bodyForest rest)

end

theorem readBody_bodyForest (body : List Stmt) :
    readBody (bodyForest imports body) = some (bodyOutline imports body) := by
  rw [readBody, readStatements_bodyForest]

/-- An accessor is read if what comes after it is none of the same keyword. -/
theorem readAccessor_accessorForest (keyword : String) (a : Accessor) {after : Forest}
    (apart : readAccessor keyword after = some (none, after)) :
    readAccessor keyword (accessorForest imports keyword a after) =
      some (accessorOutline imports a, after) := by
  unfold accessorForest accessorOutline
  split
  · rw [readAccessor, if_pos rfl, readBody_bodyForest]
    rfl
  · exact apart

/-- The header of a property ends with its name, and not like that of a method. -/
theorem getLast?_propertyHeader {p : Property} (valid : isIdentifier p.name = true) :
    (propertyHeader imports p).toList.getLast? ≠ some ')' := by
  obtain ⟨first, others, chars, _⟩ := exists_head valid
  obtain ⟨last, found⟩ : ∃ last, p.name.toList.getLast? = some last := by
    rw [chars, List.getLast?_cons]
    exact ⟨_, rfl⟩
  have ends : (propertyHeader imports p).toList.getLast? = some last := by
    rw [propertyHeader, String.toList_append, List.getLast?_append, found]
    rfl
  rw [ends]
  intro same
  have part := isIdentifierPart_of_mem valid last (List.mem_of_getLast? found)
  rw [Option.some.inj same] at part
  exact absurd part (by decide)

theorem readHeaded_property {p : Property} (valid : isIdentifier p.name = true) :
    readHeaded (propertyHeader imports p)
        (accessorForest imports "get" p.getter (accessorForest imports "set" p.setter .nil)) =
      some (.property (propertyHeader imports p) (accessorOutline imports p.getter)
        (accessorOutline imports p.setter)) := by
  have noGetter : readAccessor "get" (accessorForest imports "set" p.setter .nil) =
      some (none, accessorForest imports "set" p.setter .nil) := by
    unfold accessorForest
    split
    · rfl
    · rfl
  have getter := @readAccessor_accessorForest imports "get" p.getter _ noGetter
  have setter := @readAccessor_accessorForest imports "set" p.setter .nil rfl
  rw [readHeaded, if_neg (getLast?_propertyHeader valid), getter]
  simp only [Option.bind_eq_bind, Option.bind_some, setter, if_true]

theorem readHeaded_method (m : Method) :
    readHeaded (methodHeader imports m) (bodyForest imports m.body) =
      some (.method (methodHeader imports m) (bodyOutline imports m.body)) := by
  have ends : (methodHeader imports m).toList.getLast? = some ')' := by
    rw [methodHeader, String.toList_append, List.getLast?_append]
    rfl
  rw [readHeaded, if_pos ends, readBody_bodyForest]
  rfl

theorem readMembers_memberForest {m : Member} {words : ReservedWords}
    (clean : ∀ site ∈ m.sites, causeAt words site = none) {after : Forest}
    {members : List MemberOutline} (read : readMembers after = some members) :
    readMembers (memberForest imports m after) =
      some ((memberOutline imports m).toList ++ members) := by
  cases m with
  | field f =>
    have filled : fieldLine imports f ≠ "" := by
      simp [fieldLine]
    rw [memberForest, readMembers, read]
    simp only [Option.bind_eq_bind, Option.bind_some, if_neg filled]
    rfl
  | property p =>
    have free := causeAt_member.mp (clean (.member p.name) List.mem_cons_self)
    rw [memberForest, readMembers, readHeaded_property free.1, read]
    rfl
  | method m =>
    rw [memberForest, readMembers, readHeaded_method, read]
    rfl
  | foreign name node => exact read

theorem readMembers_membersForest {members : List Member} {words : ReservedWords}
    (clean : ∀ m ∈ members, ∀ site ∈ m.sites, causeAt words site = none) :
    readMembers (membersForest imports members) =
      some (members.filterMap (memberOutline imports)) := by
  induction members with
  | nil => rfl
  | cons m rest ih =>
    rw [List.forall_mem_cons] at clean
    have split : (m :: rest).filterMap (memberOutline imports) =
        (memberOutline imports m).toList ++ rest.filterMap (memberOutline imports) := by
      cases outlined : memberOutline imports m with
      | none => rw [List.filterMap_cons_none outlined]; rfl
      | some o => rw [List.filterMap_cons_some outlined]; rfl
    rw [split]
    cases rest with
    | nil => exact readMembers_memberForest clean.1 rfl
    | cons second rest =>
      refine readMembers_memberForest clean.1 ?_
      rw [readMembers, ih clean.2]
      rfl

/-- **The outline of a class is read off its lines**, if nothing is wrong with the class. -/
theorem readClass_lines {c : ClassDecl} {words : ReservedWords}
    (clean : ∀ v ∈ c.visits, causeAt words v.site = none) :
    readClass ((classRows imports c).map (Row.line 0)) = some (classOutline imports c) := by
  have sites := (ClassDecl.forall_visits_iff (causeAt words · = none)).mp clean
  rw [← rows_classForest, readClass, readForest_lines (isPlain_classForest c), classForest]
  simp only
  rw [readMembers_membersForest sites.2]
  rfl

/-! ## Emissions -/

/-- **The structure of a class is read off its lines.** The lines of an accepted class give back its
outline; they nest; and any other accepted class that is written in the same lines, under whatever
imports, has the same outline. -/
theorem emission_outline (words : ReservedWords) (c : ClassDecl) (imports : List String)
    (emitter : CSharpEmitter) (text : String)
    (ok : ((CSharpEmitter.emitType (.ok words) c imports).run emitter).1 = .ok text) :
    readClass (emittedLines words c imports emitter) = some (classOutline imports c) ∧
      Nests 0 (emittedLines words c imports emitter) ∧
      ∀ (c' : ClassDecl) (imports' : List String) (emitter' : CSharpEmitter) (text' : String),
        ((CSharpEmitter.emitType (.ok words) c' imports').run emitter').1 = .ok text' →
        emittedLines words c' imports' emitter' = emittedLines words c imports emitter →
        classOutline imports' c' = classOutline imports c := by
  have read {c : ClassDecl} {imports : List String} {emitter : CSharpEmitter} {text : String}
      (ok : ((CSharpEmitter.emitType (.ok words) c imports).run emitter).1 = .ok text) :
      readClass (emittedLines words c imports emitter) = some (classOutline imports c) := by
    rw [emittedLines_eq]
    exact readClass_lines (of_emitType_eq_ok ok).1
  refine ⟨read ok, ?nests, ?unique⟩
  case nests =>
    rw [emittedLines_eq, ← rows_classForest]
    exact Forest.nests (isPlain_classForest c) 0
  case unique =>
    intro c' imports' emitter' text' ok' same
    have read' := read ok'
    rw [same, read ok] at read'
    exact (Option.some.inj read').symm

/-- A class with one method of the given statements. -/
def running (body : List Stmt) : ClassDecl where
  name := "C"
  members := [.method { name := "Run", returnType := .plain "System.Void", body := body }]

/-- An `else` of the outer condition and one of the inner condition are told apart by the lines. -/
theorem emission_outline_else :
    let a : Expr := .argumentRef "a"
    let b : Expr := .argumentRef "b"
    let outer := running [.condition a [.condition b [.returns none] []] [.returns none]]
    let inner := running [.condition a [.condition b [.returns none] [.returns none]] []]
    Nests 0 (emittedLines .standard inner [] {}) ∧
      emittedLines .standard outer [] {} ≠ emittedLines .standard inner [] {} := by
  intro a b outer inner
  have clean : defectsOn .standard outer.visits = [] := by decide +kernel
  have clean' : defectsOn .standard inner.visits = [] := by decide +kernel
  have ok := text_of_clean (@performs_classDecl [] .standard outer) {} clean
  have ok' := text_of_clean (@performs_classDecl [] .standard inner) {} clean'
  obtain ⟨_, nests, unique⟩ := emission_outline .standard inner [] {} _ ok'
  refine ⟨nests, fun same => ?_⟩
  have alike := unique outer [] {} _ ok same
  have members := congrArg ClassOutline.members alike
  have bodies := (MemberOutline.method.inj (List.cons.inj members).1).2
  simp [bodyOutline, statementOutline] at bodies

/-- The empty line between two members is not indented. -/
theorem emission_outline_separator :
    let c : ClassDecl := {
      name := "C"
      members := [
        .field { name := "a", type := .plain "System.Object" },
        .field { name := "b", type := .plain "System.Object" }] }
    (∃ text, ((CSharpEmitter.emitType (.ok .standard) c []).run {}).1 = .ok text) ∧
      emittedLines .standard c [] {} =
        ["public class C", "\x7b", "    private object a;", "", "    private object b;", "\x7d"] ∧
      ¬ (Layout.indentation 1).toList <+: "".toList := by
  intro c
  have clean : defectsOn .standard c.visits = [] := by decide +kernel
  refine ⟨⟨_, text_of_clean (@performs_classDecl [] .standard c) {} clean⟩, ?_, by decide⟩
  rw [emittedLines_eq]
  decide

end CSharp

end ServiceWriter

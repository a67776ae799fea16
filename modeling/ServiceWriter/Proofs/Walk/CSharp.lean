import ServiceWriter.Proofs.Defect.Collecting
import ServiceWriter.Proofs.Walk.Run
import ServiceWriter.Proofs.Walk.Site
import ServiceWriter.Target.CSharp

/-!
# What the C# emitter does with a tree

For each part of a tree: the text or the lines that it becomes, as a function of the tree and the
imports, and the defects that are met in it, as the causes found at its sites. The run of each
action of the emitter is given in full by the two (`CSharp.Performs`): it adds the defects to the
collector and the lines to the page, and leaves the rest of the state alone.
-/

set_option autoImplicit false

namespace ServiceWriter

open Text

namespace CSharp

/-! ## Defects -/

/-- What is wrong with a site in C#. All names are held to the same rules, and types to none. -/
def causeAt (words : ReservedWords) : Site → Option Cause
  | .member name | .binding name => nameCause words .csharp name
  | .number value => numberCause value
  | .foreign kind => some (.unsupportedKind kind)
  | .type _ => none

/-- The defects met on a walk in C#. -/
def defectsOn (words : ReservedWords) (visits : List Visit) : List Defect :=
  visits.filterMap fun v => (causeAt words v.site).map (⟨·, v.subject⟩)

/-- The defects met at sites under one subject. -/
def defectsAt (words : ReservedWords) (subject : String) (sites : List Site) : List Defect :=
  defectsOn words (visitsOf subject sites)

variable {words : ReservedWords} {subject : String}

@[simp] theorem defectsOn_append (visits visits' : List Visit) :
    defectsOn words (visits ++ visits') = defectsOn words visits ++ defectsOn words visits' :=
  List.filterMap_append

theorem defectsOn_cons (visit : Visit) (visits : List Visit) :
    defectsOn words (visit :: visits) = defectsOn words [visit] ++ defectsOn words visits :=
  defectsOn_append [visit] visits

theorem defectsOn_flatMap {ι : Type} (visitsOf : ι → List Visit) (items : List ι) :
    defectsOn words (items.flatMap visitsOf) =
      items.flatMap fun i => defectsOn words (visitsOf i) :=
  List.filterMap_flatMap

/-- What is found at a visit is reported under its subject. -/
theorem exists_visit_of_mem {visits : List Visit} {d : Defect}
    (member : d ∈ defectsOn words visits) :
    ∃ v ∈ visits, causeAt words v.site = some d.cause ∧ v.subject = d.subject := by
  obtain ⟨v, inside, found⟩ := List.mem_filterMap.mp member
  obtain ⟨cause, here, rfl⟩ := Option.map_eq_some_iff.mp found
  exact ⟨v, inside, here, rfl⟩

theorem isPlain_of_mem {visits : List Visit} {d : Defect}
    (plain : ∀ v ∈ visits, IsPlain v.subject) (member : d ∈ defectsOn words visits) :
    IsPlain d.subject := by
  obtain ⟨v, inside, _, same⟩ := exists_visit_of_mem member
  exact same ▸ plain v inside

@[simp] theorem defectsAt_nil : defectsAt words subject [] = [] := rfl

@[simp] theorem defectsAt_append (sites sites' : List Site) :
    defectsAt words subject (sites ++ sites') =
      defectsAt words subject sites ++ defectsAt words subject sites' := by
  simp [defectsAt, visitsOf]

theorem defectsAt_cons (site : Site) (sites : List Site) :
    defectsAt words subject (site :: sites) =
      defectsAt words subject [site] ++ defectsAt words subject sites :=
  defectsAt_append [site] sites

@[simp] theorem defectsAt_type (fullName : String) :
    defectsAt words subject [.type fullName] = [] := rfl

mutual

/-- Types have no defects in C#. -/
theorem defectsAt_typeRef : ∀ type : TypeRef, defectsAt words subject type.sites = []
  | .mk fullName arguments => by
    unfold TypeRef.sites
    split
    · rfl
    · rw [defectsAt_cons, defectsAt_type, defectsAt_typeSites arguments]
      rfl

theorem defectsAt_typeSites : ∀ types : List TypeRef, defectsAt words subject (typeSites types) = []
  | [] => rfl
  | type :: rest => by
    rw [typeSites, defectsAt_append, defectsAt_typeRef type, defectsAt_typeSites rest]
    rfl

end

/-! ## Texts -/

/-- The text of a constant. -/
def literalText : Literal → String
  | .null => "null"
  | .bool value => if value then "true" else "false"
  | .text value => quote value
  | .number value => if value.isFinite then value.text else "0"

mutual

/-- The text of an expression. -/
def expressionText (imports : List String) : Expr → String
  | .literal value => literalText value
  | .this => "this"
  | .field target name | .property target name => expressionText imports target ++ "." ++ name
  | .variableRef name | .argumentRef name => name
  | .typeName type => typeText imports type
  | .create type arguments =>
    "new " ++ typeText imports type ++ "(" ++
      ", ".intercalate (expressionTexts imports arguments) ++ ")"
  | .invoke target method arguments =>
    expressionText imports target ++ "." ++ method ++ "(" ++
      ", ".intercalate (expressionTexts imports arguments) ++ ")"
  | .binary left operator right =>
    operand left (expressionText imports left) ++ " " ++ operatorSign operator ++ " " ++
      operand right (expressionText imports right)
  | .foreign _ => ""

/-- The texts of a list of expressions. -/
def expressionTexts (imports : List String) : List Expr → List String
  | [] => []
  | e :: rest => expressionText imports e :: expressionTexts imports rest

end

/-- The text of an initial value after its sign. -/
def initializerText (imports : List String) : Option Expr → String
  | none => ""
  | some e => " = " ++ expressionText imports e

/-! ## Rows -/

/-- A line of text and how deep it stands below the place where writing began. -/
structure Row where
  depth : Nat
  text : String
  deriving DecidableEq, Repr

/-- The line of a row, the writing having begun at the depth `base`. An empty line is not
indented. -/
def Row.line (base : Nat) (row : Row) : String :=
  if row.text = "" then "" else Layout.indentation (base + row.depth) ++ row.text

/-- A row at the place where writing began. -/
def row (text : String) : Row := ⟨0, text⟩

/-- Rows one level deeper. -/
def deeper (rows : List Row) : List Row := rows.map fun r => { r with depth := r.depth + 1 }

/-- Rows between braces, one level deeper. -/
def bracedRows (rows : List Row) : List Row := row "\x7b" :: (deeper rows ++ [row "\x7d"])

/-- Groups of rows, with an empty row between each two. -/
def separatedRows : List (List Row) → List Row
  | [] => []
  | [last] => last
  | rows :: rest => rows ++ row "" :: separatedRows rest

mutual

/-- The rows of a statement. -/
def statementRows (imports : List String) : Stmt → List Row
  | .declare type name value =>
    [row (typeText imports type ++ " " ++ name ++ initializerText imports value ++ ";")]
  | .assign left right =>
    [row (expressionText imports left ++ " = " ++ expressionText imports right ++ ";")]
  | .condition test whenTrue whenFalse =>
    row ("if (" ++ expressionText imports test ++ ")") ::
      (bracedRows (statementsRows imports whenTrue) ++
        (if whenFalse.isEmpty then []
          else row "else" :: bracedRows (statementsRows imports whenFalse)))
  | .returns none => [row "return;"]
  | .returns (some value) => [row ("return " ++ expressionText imports value ++ ";")]
  | .expression value => [row (expressionText imports value ++ ";")]
  | .foreign _ => []

/-- The rows of a list of statements. -/
def statementsRows (imports : List String) : List Stmt → List Row
  | [] => []
  | s :: rest => statementRows imports s ++ statementsRows imports rest

end

/-- The row of a field. -/
def fieldRows (imports : List String) (f : Field) : List Row :=
  [row (modifiers f.access f.isStatic ++ " " ++ typeText imports f.type ++ " " ++ f.name ++
    initializerText imports f.initializer ++ ";")]

/-- The rows of an accessor under its keyword. -/
def accessorRows (imports : List String) (keyword : String) (a : Accessor) : List Row :=
  if a.isPresent then row keyword :: bracedRows (statementsRows imports a.body) else []

/-- The rows of a property. -/
def propertyRows (imports : List String) (p : Property) : List Row :=
  row (p.access.keyword ++ " " ++ typeText imports p.type ++ " " ++ p.name) ::
    bracedRows (accessorRows imports "get" p.getter ++ accessorRows imports "set" p.setter)

/-- The text of a parameter. -/
def parameterText (imports : List String) (p : Parameter) : String :=
  typeText imports p.type ++ " " ++ p.name

/-- The rows of a method. -/
def methodRows (imports : List String) (m : Method) : List Row :=
  row (modifiers m.access m.isStatic ++ " " ++ typeText imports m.returnType ++ " " ++ m.name ++
    "(" ++ ", ".intercalate (m.parameters.map (parameterText imports)) ++ ")") ::
    bracedRows (statementsRows imports m.body)

/-- The rows of a member. -/
def memberRows (imports : List String) : Member → List Row
  | .field f => fieldRows imports f
  | .property p => propertyRows imports p
  | .method m => methodRows imports m
  | .foreign _ _ => []

/-- The rows of a class. -/
def classRows (imports : List String) (c : ClassDecl) : List Row :=
  row (c.access.keyword ++ (if c.isPartial then " partial" else "") ++ " class " ++ c.name) ::
    bracedRows (separatedRows (c.members.map (memberRows imports)))

/-- The rows of a list of imports. -/
def usingRows (imports : List String) : List Row :=
  imports.map fun imported => row ("using " ++ imported ++ ";")

/-- The rows of a namespace. -/
def namespaceRows (n : Namespace) : List Row :=
  let types := separatedRows (n.types.map (classRows n.imports))
  usingRows n.imports ++
    ((if n.imports.isEmpty then [] else [row ""]) ++
      (if n.name = "" then types else row ("namespace " ++ n.name) :: bracedRows types))

end CSharp

/-! ## Runs -/

/-- The state after defects have been met and rows written. -/
def CSharpEmitter.after (s : CSharpEmitter) (defects : List Defect) (rows : List CSharp.Row) :
    CSharpEmitter :=
  { s with
    collector := s.collector.addAll defects
    lines := s.lines ++ (rows.map (CSharp.Row.line s.depth)).toArray }

namespace CSharp

/-- Under the given imports the action finishes with the value `v`, meets the defects and writes the
rows, and does nothing else. -/
def Performs {α : Type} (imports : List String) (action : Action α) (v : α)
    (defects : List Defect) (rows : List Row) : Prop :=
  ∀ s : CSharpEmitter, s.imports = imports → Emit.Runs action s v (s.after defects rows)

variable {α β : Type} {imports : List String} {v : α} {w : β} {defects defects' : List Defect}
  {rows rows' : List Row} {words : ReservedWords} {subject : String}

theorem after_after (s : CSharpEmitter) :
    (s.after defects rows).after defects' rows' = s.after (defects ++ defects') (rows ++ rows') := by
  simp [CSharpEmitter.after, Collector.addAll_append]

theorem after_nil (s : CSharpEmitter) : s.after [] [] = s := by
  simp [CSharpEmitter.after, Collector.addAll]

namespace Performs

theorem pure (v : α) : Performs imports (Pure.pure v : Action α) v [] [] := by
  intro s _
  rw [after_nil]
  exact Emit.runs_pure v s

variable {action : Action α} {next : α → Action β}

theorem bind (first : Performs imports action v defects rows)
    (second : Performs imports (next v) w defects' rows') :
    Performs imports (action >>= next) w (defects ++ defects') (rows ++ rows') := by
  intro s same
  rw [← after_after]
  exact (first s same).bind (second _ same)

/-- First an action that only has a value. -/
theorem bindValue (first : Performs imports action v [] [])
    (second : Performs imports (next v) w defects rows) :
    Performs imports (action >>= next) w defects rows :=
  first.bind second

/-- First an action that writes nothing. -/
theorem bindText (first : Performs imports action v defects [])
    (second : Performs imports (next v) w defects' rows) :
    Performs imports (action >>= next) w (defects ++ defects') rows :=
  first.bind second

/-- First an action that meets no defect. -/
theorem bindRows (first : Performs imports action v [] rows)
    (second : Performs imports (next v) w defects rows') :
    Performs imports (action >>= next) w defects (rows ++ rows') :=
  first.bind second

theorem map (f : α → β) (run : Performs imports action v defects rows) :
    Performs imports (f <$> action) (f v) defects rows :=
  fun s same => (run s same).map f

/-- First an action that writes nothing, then one that meets no defect. -/
theorem bindWriting (first : Performs imports action v defects [])
    (second : Performs imports (next v) w [] rows) :
    Performs imports (action >>= next) w defects rows := by
  have run := first.bind second
  rwa [List.append_nil] at run

/-- What is made of the value at the end. -/
theorem ret (f : α → β) (run : Performs imports action v defects rows) :
    Performs imports (action >>= fun x => Pure.pure (f x)) (f v) defects rows := by
  rw [bind_pure_comp]
  exact run.map f

end Performs

/-! ## Primitive actions -/

theorem performs_report (cause : Cause) :
    Performs imports (report cause subject) () [⟨cause, subject⟩] [] := by
  intro s _
  have leaves : s.after [⟨cause, subject⟩] [] =
      { s with collector := s.collector.add ⟨cause, subject⟩ } := by
    simp [CSharpEmitter.after, Collector.addAll]
  rw [leaves]
  exact Emit.runs_modify _ s

theorem performs_line (text : String) :
    Performs imports (line text) () [] [row text] := by
  intro s _
  have leaves : s.after [] [row text] =
      { s with
        lines := s.lines.push (if text = "" then "" else Layout.indentation s.depth ++ text) } := by
    simp [CSharpEmitter.after, Collector.addAll, Row.line, row]
  rw [leaves]
  exact Emit.runs_modify _ s

theorem performs_isReserved (name : String) :
    Performs imports (Emit.isReserved (.ok words) .csharp name) (words.contains .csharp name)
      [] [] := by
  intro s _
  rw [after_nil]
  exact Emit.runs_isReserved words .csharp name s

theorem performs_typeName (type : TypeRef) :
    Performs imports (typeName type) (typeText imports type) [] [] := by
  intro s same
  rw [after_nil, ← same]
  exact (Emit.runs_get s).bind (Emit.runs_pure _ s)

theorem line_deeper (base : Nat) (rows : List Row) :
    (deeper rows).map (Row.line base) = rows.map (Row.line (base + 1)) := by
  simp [deeper, Row.line, Nat.add_assoc, Nat.add_comm 1]

/-- Braces put the rows one level deeper and leave the depth as it was. -/
theorem performs_braced {body : Action Unit} (inside : Performs imports body () defects rows) :
    Performs imports (braced body) () defects (bracedRows rows) := by
  intro s same
  have opened := performs_line "\x7b" s same
  have entered := Emit.runs_modify (fun s : CSharpEmitter => { s with depth := s.depth + 1 })
    (s.after [] [row "\x7b"])
  have written := inside { s.after [] [row "\x7b"] with depth := s.depth + 1 } same
  have left := Emit.runs_modify (fun s : CSharpEmitter => { s with depth := s.depth - 1 })
    (CSharpEmitter.after { s.after [] [row "\x7b"] with depth := s.depth + 1 } defects rows)
  have closed := performs_line "\x7d"
    { CSharpEmitter.after { s.after [] [row "\x7b"] with depth := s.depth + 1 } defects rows with
      depth := s.depth + 1 - 1 } same
  have leaves : s.after defects (bracedRows rows) =
      CSharpEmitter.after
        { CSharpEmitter.after { s.after [] [row "\x7b"] with depth := s.depth + 1 } defects rows with
          depth := s.depth + 1 - 1 } [] [row "\x7d"] := by
    simp [CSharpEmitter.after, bracedRows, line_deeper, Collector.addAll]
  rw [leaves]
  exact opened.bind (entered.bind (written.bind (left.bind closed)))

/-- Groups of rows are separated by empty rows. -/
theorem performs_separated {ι : Type} {perform : ι → Action Unit} {defectsOf : ι → List Defect}
    {rowsOf : ι → List Row}
    (each : ∀ i, Performs imports (perform i) () (defectsOf i) (rowsOf i)) :
    ∀ items : List ι, Performs imports (separated (items.map perform)) ()
      (items.flatMap defectsOf) (separatedRows (items.map rowsOf))
  | [] => Performs.pure ()
  | [last] => by
    rw [List.flatMap_singleton]
    exact each last
  | first :: second :: rest => by
    rw [List.flatMap_cons]
    exact (each first).bind
      ((performs_line "").bindRows (performs_separated each (second :: rest)))

/-! ## Names -/

theorem performs_checkIdentifier (name : String) :
    Performs imports (checkIdentifier (.ok words) name subject) ()
      (defectsAt words subject [.member name]) [] := by
  unfold checkIdentifier
  by_cases valid : isIdentifier name
  · by_cases reserved : words.contains .csharp name
    · have found : defectsAt words subject [.member name] = [⟨.reservedWord name, subject⟩] := by
        simp [defectsAt, visitsOf, defectsOn, causeAt, nameCause, valid, reserved]
      rw [if_pos valid, found]
      refine (performs_isReserved name).bindValue ?_
      rw [if_pos reserved]
      exact performs_report _
    · have found : defectsAt words subject [.member name] = [] := by
        simp [defectsAt, visitsOf, defectsOn, causeAt, nameCause, valid, reserved]
      rw [if_pos valid, found]
      refine (performs_isReserved name).bindValue ?_
      rw [if_neg reserved]
      exact Performs.pure ()
  · have found : defectsAt words subject [.member name] = [⟨.notIdentifier name, subject⟩] := by
      simp [defectsAt, visitsOf, defectsOn, causeAt, nameCause, valid]
    rw [if_neg valid, found]
    exact performs_report _

theorem performs_checkIdentifiers : ∀ names : List String,
    Performs imports (checkIdentifiers (.ok words) subject names) ()
      (defectsAt words subject (names.map .binding)) []
  | [] => Performs.pure ()
  | name :: rest => by
    rw [checkIdentifiers, List.map_cons, defectsAt_cons]
    exact (performs_checkIdentifier name).bindText (performs_checkIdentifiers rest)

theorem performs_checkQualifiedName (name : String) :
    Performs imports (checkQualifiedName (.ok words) name name) ()
      (defectsOn words (dottedVisits name)) [] :=
  performs_checkIdentifiers (dottedParts name)

/-! ## Expressions -/

theorem performs_literal : ∀ value : Literal,
    Performs imports (literal subject value) (literalText value)
      (defectsAt words subject value.sites) []
  | .null | .bool _ | .text _ => Performs.pure _
  | .number value => by
    by_cases finite : value.isFinite
    · have found : defectsAt words subject [.number value] = [] := by
        simp [defectsAt, visitsOf, defectsOn, causeAt, numberCause, finite]
      rw [literal, if_pos finite, literalText, if_pos finite, Literal.sites, found]
      exact Performs.pure _
    · have found : defectsAt words subject [.number value] = [⟨.nonFinite value, subject⟩] := by
        simp [defectsAt, visitsOf, defectsOn, causeAt, numberCause, finite]
      rw [literal, if_neg finite, literalText, if_neg finite, Literal.sites, found]
      exact (performs_report _).bindText (Performs.pure _)

mutual

theorem performs_expression : ∀ e : Expr,
    Performs imports (expression (.ok words) subject e) (expressionText imports e)
      (defectsAt words subject e.sites) []
  | .literal value => by
    rw [expression, expressionText, Expr.sites]
    exact performs_literal value
  | .this => by
    rw [expression, expressionText, Expr.sites]
    exact Performs.pure _
  | .field target name | .property target name => by
    rw [expression, expressionText, Expr.sites, defectsAt_cons]
    exact (performs_checkIdentifier name).bindText ((performs_expression target).ret _)
  | .variableRef name | .argumentRef name => by
    rw [expression, expressionText, Expr.sites]
    have run : Performs imports _ () (defectsAt words subject [.binding name]) [] :=
      performs_checkIdentifier name
    exact run.ret _
  | .typeName type => by
    rw [expression, expressionText, Expr.sites, defectsAt_type]
    exact performs_typeName type
  | .create type arguments => by
    rw [expression, expressionText, Expr.sites, defectsAt_cons, defectsAt_type, defectsAt_append,
      defectsAt_typeSites]
    exact (performs_typeName type).bindValue ((performs_expressions arguments).ret _)
  | .invoke target method arguments => by
    rw [expression, expressionText, Expr.sites, defectsAt_cons, defectsAt_append]
    exact (performs_checkIdentifier method).bindText
      ((performs_expression target).bindText ((performs_expressions arguments).ret _))
  | .binary left operator right => by
    rw [expression, expressionText, Expr.sites, defectsAt_append]
    exact (performs_expression left).bindText ((performs_expression right).ret _)
  | .foreign node => by
    rw [expression, expressionText, Expr.sites]
    exact (performs_report _).bindText (Performs.pure _)

theorem performs_expressions : ∀ es : List Expr,
    Performs imports (expressions (.ok words) subject es) (expressionTexts imports es)
      (defectsAt words subject (exprSites es)) []
  | [] => by
    rw [expressions, expressionTexts, exprSites]
    exact Performs.pure _
  | e :: rest => by
    rw [expressions, expressionTexts, exprSites, defectsAt_append]
    exact (performs_expression e).bindText ((performs_expressions rest).ret _)

end

theorem performs_initializer : ∀ value : Option Expr,
    Performs imports (initializer (.ok words) subject value) (initializerText imports value)
      (defectsAt words subject (optionSites value)) []
  | none => Performs.pure _
  | some e => by
    rw [initializer, initializerText, optionSites]
    exact (performs_expression e).ret _

/-! ## Statements -/

mutual

theorem performs_statement : ∀ s : Stmt,
    Performs imports (statement (.ok words) subject s) () (defectsAt words subject s.sites)
      (statementRows imports s)
  | .declare type name value => by
    rw [statement, statementRows, Stmt.sites, defectsAt_cons, defectsAt_append, defectsAt_typeRef]
    exact (performs_checkIdentifier name).bindText ((performs_initializer value).bindWriting
      ((performs_typeName type).bindValue (performs_line _)))
  | .assign left right => by
    rw [statement, statementRows, Stmt.sites, defectsAt_append]
    exact (performs_expression left).bindText
      ((performs_expression right).bindWriting (performs_line _))
  | .condition test whenTrue whenFalse => by
    rw [statement, statementRows, Stmt.sites, defectsAt_append, defectsAt_append]
    refine (performs_expression test).bindText ((performs_line _).bindRows
      ((performs_braced (performs_statements whenTrue)).bind ?_))
    cases whenFalse with
    | nil =>
      rw [stmtSites]
      exact Performs.pure ()
    | cons s rest =>
      exact (performs_line _).bindRows (performs_braced (performs_statements (s :: rest)))
  | .returns none => by
    rw [statement, statementRows, Stmt.sites, optionSites]
    exact performs_line _
  | .returns (some value) => by
    rw [statement, statementRows, Stmt.sites, optionSites]
    exact (performs_expression value).bindWriting (performs_line _)
  | .expression value => by
    rw [statement, statementRows, Stmt.sites]
    exact (performs_expression value).bindWriting (performs_line _)
  | .foreign node => by
    rw [statement, statementRows, Stmt.sites]
    exact performs_report _

theorem performs_statements : ∀ body : List Stmt,
    Performs imports (statements (.ok words) subject body) ()
      (defectsAt words subject (stmtSites body)) (statementsRows imports body)
  | [] => by
    rw [statements, statementsRows, stmtSites]
    exact Performs.pure _
  | s :: rest => by
    rw [statements, statementsRows, stmtSites, defectsAt_append]
    exact (performs_statement s).bind (performs_statements rest)

end

/-! ## Members -/

theorem performs_field (owner : String) (f : Field) :
    Performs imports (field (.ok words) owner f) ()
      (defectsAt words (memberSubject owner f.name) f.sites) (fieldRows imports f) := by
  rw [Field.sites, defectsAt_cons, defectsAt_append, defectsAt_typeRef]
  exact (performs_checkIdentifier f.name).bindText
    ((performs_initializer f.initializer).bindWriting
      ((performs_typeName f.type).bindValue (performs_line _)))

theorem performs_accessor (keyword : String) (a : Accessor) (type : TypeRef) :
    Performs imports (accessor (.ok words) subject keyword a) ()
      (defectsAt words subject (a.sites type)) (accessorRows imports keyword a) := by
  unfold accessor Accessor.sites accessorRows
  by_cases present : a.isPresent
  · rw [if_pos present, if_pos present, if_pos present, defectsAt_append, defectsAt_typeRef]
    exact (performs_line keyword).bindRows (performs_braced (performs_statements a.body))
  · rw [if_neg present, if_neg present, if_neg present]
    exact Performs.pure ()

theorem performs_property (owner : String) (p : Property) :
    Performs imports (property (.ok words) owner p) ()
      (defectsAt words (memberSubject owner p.name) p.sites) (propertyRows imports p) := by
  rw [Property.sites, defectsAt_cons, defectsAt_append]
  exact (performs_checkIdentifier p.name).bindText ((performs_typeName p.type).bindValue
    ((performs_line _).bindRows (performs_braced
      ((performs_accessor "get" p.getter p.type).bind
        (performs_accessor "set" p.setter p.type)))))

theorem performs_parameters : ∀ ps : List Parameter,
    Performs imports (parameters (.ok words) subject ps) (ps.map (parameterText imports))
      (defectsAt words subject (ps.flatMap Parameter.sites)) []
  | [] => Performs.pure _
  | p :: rest => by
    rw [parameters, List.map_cons, List.flatMap_cons, defectsAt_append, Parameter.sites,
      defectsAt_cons, defectsAt_typeRef, List.append_nil]
    exact (performs_checkIdentifier p.name).bindText
      ((performs_typeName p.type).bindValue ((performs_parameters rest).ret _))

theorem performs_method (owner : String) (m : Method) :
    Performs imports (method (.ok words) owner m) ()
      (defectsAt words (memberSubject owner m.name) m.sites) (methodRows imports m) := by
  rw [Method.sites, defectsAt_cons, defectsAt_append, defectsAt_append, defectsAt_typeRef]
  exact (performs_checkIdentifier m.name).bindText ((performs_parameters m.parameters).bindText
    ((performs_typeName m.returnType).bindValue
      ((performs_line _).bindRows (performs_braced (performs_statements m.body)))))

theorem performs_member (owner : String) : ∀ m : Member,
    Performs imports (member (.ok words) owner m) () (defectsOn words (m.visits owner))
      (memberRows imports m)
  | .field f => performs_field owner f
  | .property p => performs_property owner p
  | .method m => performs_method owner m
  | .foreign _ node => performs_report (.unsupportedKind node.kind)

/-! ## Classes and namespaces -/

theorem performs_classDecl (c : ClassDecl) :
    Performs imports (classDecl (.ok words) c) () (defectsOn words c.visits)
      (classRows imports c) := by
  have members : Performs imports (separated (c.members.map (member (.ok words) c.name))) () _ _ :=
    performs_separated (performs_member c.name) c.members
  rw [ClassDecl.visits, defectsOn_cons, defectsOn_flatMap]
  exact (performs_checkIdentifier c.name).bindText
    ((performs_line _).bindRows (performs_braced members))

theorem performs_usings : ∀ names : List String,
    Performs imports (usings (.ok words) names) () (defectsOn words (names.flatMap dottedVisits))
      (usingRows names)
  | [] => Performs.pure ()
  | name :: rest => by
    rw [usings, List.flatMap_cons, defectsOn_append]
    exact (performs_checkQualifiedName name).bindText
      ((performs_line _).bindRows (performs_usings rest))

/-- **What a namespace becomes in C#**: the defects of the imports, the name and the classes, in
this order, and the rows of the namespace. -/
theorem performs_namespaceDecl (n : Namespace) :
    Performs n.imports (namespaceDecl (.ok words) n) ()
      (defectsOn words n.visits) (namespaceRows n) := by
  have types : Performs n.imports (separated (n.types.map (classDecl (.ok words)))) () _ _ :=
    performs_separated performs_classDecl n.types
  rw [← defectsOn_flatMap] at types
  rw [Namespace.visits, List.append_assoc, defectsOn_append, defectsOn_append]
  refine (performs_usings n.imports).bind ?_
  have block : Performs n.imports
      (if n.name = "" then separated (n.types.map (classDecl (.ok words)))
        else do
          checkQualifiedName (.ok words) n.name n.name
          line ("namespace " ++ n.name)
          braced (separated (n.types.map (classDecl (.ok words))))) ()
      (defectsOn words n.nameVisits ++ defectsOn words n.classVisits)
      (if n.name = "" then separatedRows (n.types.map (classRows n.imports))
        else row ("namespace " ++ n.name) ::
          bracedRows (separatedRows (n.types.map (classRows n.imports)))) := by
    by_cases unnamed : n.name = ""
    · simp only [if_pos unnamed, Namespace.nameVisits]
      exact types
    · simp only [if_neg unnamed, Namespace.nameVisits]
      exact (performs_checkQualifiedName n.name).bindText
        ((performs_line _).bindRows (performs_braced types))
  -- the empty line after the imports, if there are any
  cases n.imports.isEmpty with
  | true => exact block
  | false => exact (performs_line "").bindRows block

/-! ## Emissions -/

/-- The text of rows that are written from the left margin. -/
def page (rows : List Row) : String := "\n".intercalate (rows.map (Row.line 0)) ++ "\n"

/-- An emission begins with a fresh state and gives out what its action leaves there. -/
theorem run_emit {action : Action Unit} (performs : Performs imports action () defects rows)
    (emitter : CSharpEmitter) :
    (CSharpEmitter.emit imports action).run emitter =
      (outcome (.ok (page rows)) (Collector.empty.addAll defects),
        ({ imports := imports } : CSharpEmitter).after defects rows) := by
  have run := performs { imports := imports } rfl
  have text : (({ imports := imports } : CSharpEmitter).after defects rows).text = page rows := by
    simp [CSharpEmitter.text, CSharpEmitter.after, page]
  unfold Emit.Runs at run
  rw [← text]
  simp only [CSharpEmitter.emit, StateT.run_bind, StateT.run_set, StateT.run_get, pure_bind, run]
  rfl

/-- The lines that an emission has written are those of its rows. -/
theorem lines_emit {action : Action Unit} (performs : Performs imports action () defects rows)
    (emitter : CSharpEmitter) :
    ((CSharpEmitter.emit imports action).run emitter).2.lines.toList = rows.map (Row.line 0) := by
  rw [run_emit performs emitter]
  simp [CSharpEmitter.after]

/-- The lines that the emission of a class has written. -/
def emittedLines (words : ReservedWords) (c : ClassDecl) (imports : List String)
    (emitter : CSharpEmitter) : List String :=
  ((CSharpEmitter.emitType (.ok words) c imports).run emitter).2.lines.toList

theorem emittedLines_eq (words : ReservedWords) (c : ClassDecl) (imports : List String)
    (emitter : CSharpEmitter) :
    emittedLines words c imports emitter = (classRows imports c).map (Row.line 0) :=
  lines_emit (performs_classDecl c) emitter

/-- An emission is refused with the first reports of the defects that its action meets. -/
theorem outcome_emit_of_isPlain {action : Action Unit}
    (performs : Performs imports action () defects rows)
    (plain : ∀ d ∈ defects, IsPlain d.subject) (emitter : CSharpEmitter) :
    ((CSharpEmitter.emit imports action).run emitter).1 =
      if defects = [] then .ok (page rows) else .error (.rejected (firstReports defects)) := by
  rw [run_emit performs emitter]
  exact outcome_of_isPlain _ plain

/-- What it is refused with is what the collector keeps of them. -/
theorem reports_emit {action : Action Unit} (performs : Performs imports action () defects rows)
    (emitter : CSharpEmitter) :
    reports ((CSharpEmitter.emit imports action).run emitter).1 =
      (Collector.empty.addAll defects).defects := by
  rw [run_emit performs emitter]
  exact reports_outcome _ _

end CSharp

end ServiceWriter

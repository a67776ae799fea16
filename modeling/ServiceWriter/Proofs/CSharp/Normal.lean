import ServiceWriter.Proofs.Number.Rounding
import ServiceWriter.Proofs.Text.Split
import ServiceWriter.Proofs.Walk.CSharp

/-!
# Normal forms of C# expressions

What the text of a C# expression shows of it. It does not show whether a member is a field or a
property and whether a name is that of a variable or of an argument; a type without type arguments
that stands for itself looks like names joined by dots; types are shown as they are printed under
the imports; and the two equalities are written alike, as are the two zeros.

The text shows no more than that (`expressionText_eq`): it is the normal form spelled out. That it
shows all of it is the subject of the reader.
-/

set_option autoImplicit false

namespace ServiceWriter.CSharp

open Text

/-! ## Normal forms -/

mutual

/-- A type as it is printed, with its arguments as they are printed. -/
def printedType (imports : List String) : TypeRef → TypeRef
  | .mk name arguments => .mk (csharpTypeName imports name) (printedTypes imports arguments)

/-- A list of types as they are printed. -/
def printedTypes (imports : List String) : List TypeRef → List TypeRef
  | [] => []
  | type :: rest => printedType imports type :: printedTypes imports rest

end

/-- Names joined by dots: a variable and the fields reached from it. -/
def chain : List String → Expr
  | [] => .variableRef ""
  | name :: names => names.foldl .field (.variableRef name)

/-- A type that stands for itself. -/
def normalTypeName (imports : List String) : TypeRef → Expr
  | .mk name [] => chain (dottedParts (csharpTypeName imports name))
  | .mk name arguments => .typeName (printedType imports (.mk name arguments))

/-- A constant, up to the sign of zero. -/
def normalLiteral : Literal → Literal
  | .number value => .number value.unsignedZero
  | value => value

/-- An operator, the two equalities as one. -/
def normalOperator : Operator → Operator
  | .valueEquality => .identityEquality
  | operator => operator

mutual

/-- The normal form of an expression under imports. -/
def normal (imports : List String) : Expr → Expr
  | .literal value => .literal (normalLiteral value)
  | .this => .this
  | .field target name | .property target name => .field (normal imports target) name
  | .variableRef name | .argumentRef name => .variableRef name
  | .typeName type => normalTypeName imports type
  | .create type arguments => .create (printedType imports type) (normals imports arguments)
  | .invoke target method arguments =>
    .invoke (normal imports target) method (normals imports arguments)
  | .binary left operator right =>
    .binary (normal imports left) (normalOperator operator) (normal imports right)
  | .foreign node => .foreign node

/-- The normal forms of a list of expressions. -/
def normals (imports : List String) : List Expr → List Expr
  | [] => []
  | e :: rest => normal imports e :: normals imports rest

end

/-! ## Spelling -/

mutual

/-- A type spelled out as it stands. -/
def spelledType : TypeRef → String
  | .mk name arguments =>
    name ++ (if arguments.isEmpty then "" else "<" ++ ", ".intercalate (spelledTypes arguments) ++ ">")

/-- A list of types spelled out. -/
def spelledTypes : List TypeRef → List String
  | [] => []
  | type :: rest => spelledType type :: spelledTypes rest

end

mutual

/-- A normal form spelled out. -/
def spelled : Expr → String
  | .literal value => literalText value
  | .this => "this"
  | .field target name | .property target name => spelled target ++ "." ++ name
  | .variableRef name | .argumentRef name => name
  | .typeName type => spelledType type
  | .create type arguments =>
    "new " ++ spelledType type ++ "(" ++ ", ".intercalate (spelledAll arguments) ++ ")"
  | .invoke target method arguments =>
    spelled target ++ "." ++ method ++ "(" ++ ", ".intercalate (spelledAll arguments) ++ ")"
  | .binary left operator right =>
    operand left (spelled left) ++ " " ++ operatorSign operator ++ " " ++
      operand right (spelled right)
  | .foreign _ => ""

/-- A list of normal forms spelled out. -/
def spelledAll : List Expr → List String
  | [] => []
  | e :: rest => spelled e :: spelledAll rest

end

mutual

theorem typeText_eq (imports : List String) : ∀ type : TypeRef,
    typeText imports type = spelledType (printedType imports type)
  | .mk name arguments => by
    rw [typeText, printedType, spelledType, typeTexts_eq imports arguments]
    cases arguments <;> rfl

theorem typeTexts_eq (imports : List String) : ∀ types : List TypeRef,
    typeTexts imports types = spelledTypes (printedTypes imports types)
  | [] => rfl
  | type :: rest => by
    rw [typeTexts, printedTypes, spelledTypes, typeText_eq imports type, typeTexts_eq imports rest]

end

theorem spelled_foldl (names : List String) (target : Expr) :
    (spelled (names.foldl .field target)).toList =
      (spelled target).toList ++ behind '.' (names.map String.toList) := by
  induction names generalizing target with
  | nil => simp [behind]
  | cons name names ih =>
    rw [List.foldl_cons, ih]
    simp [spelled, behind]

/-- The chain of the parts of a name spells the name. -/
theorem spelled_chain (name : String) : spelled (chain (dottedParts name)) = name := by
  obtain ⟨part, others, split⟩ := List.exists_cons_of_ne_nil (dottedParts_ne_nil name)
  apply String.toList_injective
  rw [toList_of_dottedParts split, split]
  exact spelled_foldl others (.variableRef part)

theorem isBinary_foldl (names : List String) {target : Expr} (plain : target.isBinary = false) :
    (names.foldl Expr.field target).isBinary = false := by
  induction names generalizing target with
  | nil => exact plain
  | cons name names ih => exact ih rfl

/-- The normal form of an expression is an application of an operator if the expression is one. -/
theorem isBinary_normal (imports : List String) (e : Expr) :
    (normal imports e).isBinary = e.isBinary := by
  cases e with
  | typeName type =>
    obtain ⟨name, arguments⟩ := type
    cases arguments with
    | nil =>
      obtain ⟨part, others, split⟩ :=
        List.exists_cons_of_ne_nil (dottedParts_ne_nil (csharpTypeName imports name))
      rw [normal, normalTypeName, split]
      exact isBinary_foldl others rfl
    | cons type types => rfl
  | _ => rfl

theorem literalText_normal (value : Literal) :
    literalText (normalLiteral value) = literalText value := by
  cases value with
  | number value =>
    rw [normalLiteral, literalText, literalText, Binary64.isFinite_unsignedZero,
      Binary64.text_unsignedZero]
  | null | bool _ | text _ => rfl

theorem operatorSign_normal (operator : Operator) :
    operatorSign (normalOperator operator) = operatorSign operator := by
  cases operator <;> rfl

mutual

/-- **The text of an expression is its normal form spelled out.** -/
theorem expressionText_eq (imports : List String) : ∀ e : Expr,
    expressionText imports e = spelled (normal imports e)
  | .literal value => by
    rw [expressionText, normal, spelled, literalText_normal]
  | .this => rfl
  | .field target name | .property target name => by
    rw [expressionText, normal, spelled, expressionText_eq imports target]
  | .variableRef _ | .argumentRef _ => rfl
  | .typeName (.mk name []) => by
    rw [expressionText, normal, normalTypeName, spelled_chain]
    exact String.append_empty
  | .typeName (.mk name (type :: types)) => by
    rw [expressionText, normal, normalTypeName, spelled, typeText_eq]
    exact List.cons_ne_nil type types
  | .create type arguments => by
    rw [expressionText, normal, spelled, typeText_eq, expressionTexts_eq imports arguments]
  | .invoke target method arguments => by
    rw [expressionText, normal, spelled, expressionText_eq imports target,
      expressionTexts_eq imports arguments]
  | .binary left operator right => by
    rw [expressionText, normal, spelled, operatorSign_normal, operand, operand, operand, operand,
      isBinary_normal, isBinary_normal, expressionText_eq imports left,
      expressionText_eq imports right]
  | .foreign _ => rfl

theorem expressionTexts_eq (imports : List String) : ∀ es : List Expr,
    expressionTexts imports es = spelledAll (normals imports es)
  | [] => rfl
  | e :: rest => by
    rw [expressionTexts, normals, spelledAll, expressionText_eq imports e,
      expressionTexts_eq imports rest]

end

/-! ## Conditions -/

mutual

/-- The names of a type and its arguments. -/
def typeNames : TypeRef → List String
  | .mk name arguments => name :: typesNames arguments

/-- The names of a list of types and their arguments. -/
def typesNames : List TypeRef → List String
  | [] => []
  | type :: rest => typeNames type ++ typesNames rest

end

mutual

/-- The names of all types that an expression refers to. -/
def namesOfTypes : Expr → List String
  | .field target _ | .property target _ => namesOfTypes target
  | .typeName type => typeNames type
  | .create type arguments => typeNames type ++ namesOfTypesAll arguments
  | .invoke target _ arguments => namesOfTypes target ++ namesOfTypesAll arguments
  | .binary left _ right => namesOfTypes left ++ namesOfTypes right
  | .literal _ | .this | .variableRef _ | .argumentRef _ | .foreign _ => []

/-- The names of all types that a list of expressions refers to. -/
def namesOfTypesAll : List Expr → List String
  | [] => []
  | e :: rest => namesOfTypes e ++ namesOfTypesAll rest

end

mutual

/-- No target in the expression is an application of an operator, which is written there without
parentheses. -/
def hasPlainTargets : Expr → Bool
  | .field target _ | .property target _ => !target.isBinary && hasPlainTargets target
  | .invoke target _ arguments =>
    !target.isBinary && hasPlainTargets target && havePlainTargets arguments
  | .create _ arguments => havePlainTargets arguments
  | .binary left _ right => hasPlainTargets left && hasPlainTargets right
  | .literal _ | .this | .variableRef _ | .argumentRef _ | .typeName _ | .foreign _ => true

/-- The same of a list of expressions. -/
def havePlainTargets : List Expr → Bool
  | [] => true
  | e :: rest => hasPlainTargets e && havePlainTargets rest

end

/-- An identifier that is no reserved word. -/
def IsFreeName (name : String) : Prop :=
  isIdentifier name = true ∧ ReservedWords.standard.contains .csharp name = false

instance (name : String) : Decidable (IsFreeName name) := inferInstanceAs (Decidable (_ ∧ _))

/-- What is asked of an expression for its text to determine it: nothing is wrong at its sites, no
target is an application of an operator, and types have free names for parts of their names. -/
structure IsReadable (e : Expr) : Prop where
  clean : ∀ site ∈ e.sites, causeAt .standard site = none
  targets : hasPlainTargets e = true
  types : ∀ name ∈ namesOfTypes e, ∀ part ∈ dottedParts name, IsFreeName part

/-- The same of a list of expressions. -/
structure AreReadable (es : List Expr) : Prop where
  clean : ∀ site ∈ exprSites es, causeAt .standard site = none
  targets : havePlainTargets es = true
  types : ∀ name ∈ namesOfTypesAll es, ∀ part ∈ dottedParts name, IsFreeName part

theorem isFreeName_of_nameCause {name : String}
    (clean : nameCause .standard .csharp name = none) : IsFreeName name := by
  unfold nameCause at clean
  split at clean
  · rename_i valid
    split at clean
    · cases clean
    · rename_i free
      exact ⟨valid, Bool.not_eq_true _ ▸ free⟩
  · cases clean

theorem IsReadable.asField {target : Expr} {name : String}
    (readable : IsReadable (.property target name)) : IsReadable (.field target name) :=
  ⟨readable.clean, readable.targets, readable.types⟩

theorem IsReadable.asVariable {name : String} (readable : IsReadable (.argumentRef name)) :
    IsReadable (.variableRef name) :=
  ⟨readable.clean, readable.targets, readable.types⟩

theorem IsReadable.access {target : Expr} {name : String}
    (readable : IsReadable (.field target name)) :
    IsFreeName name ∧ target.isBinary = false ∧ IsReadable target := by
  obtain ⟨clean, targets, types⟩ := readable
  rw [Expr.sites] at clean
  rw [hasPlainTargets, Bool.and_eq_true, Bool.not_eq_true'] at targets
  rw [namesOfTypes] at types
  exact ⟨isFreeName_of_nameCause (clean _ List.mem_cons_self), targets.1,
    fun site member => clean site (List.mem_cons_of_mem _ member), targets.2, types⟩

theorem IsReadable.name {name : String} (readable : IsReadable (.variableRef name)) :
    IsFreeName name :=
  isFreeName_of_nameCause (readable.clean (.binding name) List.mem_cons_self)

theorem IsReadable.create {type : TypeRef} {arguments : List Expr}
    (readable : IsReadable (.create type arguments)) :
    (∀ name ∈ typeNames type, ∀ part ∈ dottedParts name, IsFreeName part) ∧
      AreReadable arguments := by
  obtain ⟨clean, targets, types⟩ := readable
  rw [Expr.sites] at clean
  rw [hasPlainTargets] at targets
  rw [namesOfTypes] at types
  exact ⟨fun name member => types name (List.mem_append_left _ member),
    fun site member => clean site (List.mem_cons_of_mem _ (List.mem_append_right _ member)), targets,
    fun name member => types name (List.mem_append_right _ member)⟩

theorem IsReadable.invoke {target : Expr} {method : String} {arguments : List Expr}
    (readable : IsReadable (.invoke target method arguments)) :
    IsFreeName method ∧ target.isBinary = false ∧ IsReadable target ∧ AreReadable arguments := by
  obtain ⟨clean, targets, types⟩ := readable
  rw [Expr.sites] at clean
  rw [hasPlainTargets, Bool.and_eq_true, Bool.and_eq_true, Bool.not_eq_true'] at targets
  rw [namesOfTypes] at types
  exact ⟨isFreeName_of_nameCause (clean _ List.mem_cons_self), targets.1.1,
    ⟨fun site member => clean site (List.mem_cons_of_mem _ (List.mem_append_left _ member)),
      targets.1.2, fun name member => types name (List.mem_append_left _ member)⟩,
    ⟨fun site member => clean site (List.mem_cons_of_mem _ (List.mem_append_right _ member)),
      targets.2, fun name member => types name (List.mem_append_right _ member)⟩⟩

theorem IsReadable.binary {left right : Expr} {operator : Operator}
    (readable : IsReadable (.binary left operator right)) : IsReadable left ∧ IsReadable right := by
  obtain ⟨clean, targets, types⟩ := readable
  rw [Expr.sites] at clean
  rw [hasPlainTargets, Bool.and_eq_true] at targets
  rw [namesOfTypes] at types
  exact ⟨⟨fun site member => clean site (List.mem_append_left _ member), targets.1,
      fun name member => types name (List.mem_append_left _ member)⟩,
    ⟨fun site member => clean site (List.mem_append_right _ member), targets.2,
      fun name member => types name (List.mem_append_right _ member)⟩⟩

theorem AreReadable.cons {e : Expr} {es : List Expr} (readable : AreReadable (e :: es)) :
    IsReadable e ∧ AreReadable es := by
  obtain ⟨clean, targets, types⟩ := readable
  rw [exprSites] at clean
  rw [havePlainTargets, Bool.and_eq_true] at targets
  rw [namesOfTypesAll] at types
  exact ⟨⟨fun site member => clean site (List.mem_append_left _ member), targets.1,
      fun name member => types name (List.mem_append_left _ member)⟩,
    ⟨fun site member => clean site (List.mem_append_right _ member), targets.2,
      fun name member => types name (List.mem_append_right _ member)⟩⟩

end ServiceWriter.CSharp

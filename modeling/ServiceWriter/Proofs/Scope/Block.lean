import ServiceWriter.Code.Tree
import Mathlib.Data.List.Nodup

/-!
# Blocks and the names in them

The code tree keeps parameters, variables and types apart. In a text all three may be bare names, and
a name then belongs to the innermost declaration around it. A block is hygienic if this changes
nothing (`Block.IsHygienic`): its variables have different names, none of them has the name of a
parameter, and nothing in scope has the printed name of a type that an expression uses. In a hygienic
block every parameter can be read by its name, and the printed names of the types are bound to
nothing else (`Block.isHygienic_iff`).
-/

set_option autoImplicit false

namespace ServiceWriter

/-! ## Types in expressions -/

mutual

/-- The full names of the types that an expression refers to or creates objects of. -/
def Expr.types : Expr → List String
  | .typeName type => [type.name]
  | .create type arguments => type.name :: exprTypes arguments
  | .field target _ | .property target _ => target.types
  | .invoke target _ arguments => target.types ++ exprTypes arguments
  | .binary left _ right => left.types ++ right.types
  | .literal _ | .this | .variableRef _ | .argumentRef _ | .foreign _ => []

/-- The types in a list of expressions. -/
def exprTypes : List Expr → List String
  | [] => []
  | e :: rest => e.types ++ exprTypes rest

end

/-- The types in an expression that may be absent. -/
def optionTypes : Option Expr → List String
  | none => []
  | some e => e.types

/-- The types in the expressions of a statement, without those in the blocks inside it. -/
def Stmt.types : Stmt → List String
  | .declare _ _ initializer => optionTypes initializer
  | .assign left right => left.types ++ right.types
  | .condition test _ _ => test.types
  | .returns value => optionTypes value
  | .expression value => value.types
  | .foreign _ => []

/-- The variable that a statement declares in the block it stands in. -/
def Stmt.declared : Stmt → List String
  | .declare _ name _ => [name]
  | _ => []

/-! ## Blocks -/

/-- The names in a block of a body: the parameters of the body, the variables that the statements of
the block declare, those of the blocks around it, and the types in its expressions. A variable is in
scope in the whole of its block. -/
structure Block where
  parameters : List String
  own : List String
  around : List String
  types : List String

namespace Block

/-- The block of some statements. -/
def ofStatements (parameters around : List String) (statements : List Stmt) : Block where
  parameters := parameters
  own := statements.flatMap Stmt.declared
  around := around
  types := statements.flatMap Stmt.types

/-- The variables in scope, the innermost ones first. -/
def visible (b : Block) : List String := b.own ++ b.around

end Block

mutual

/-- The blocks inside a statement that stands where the given variables are in scope. -/
def Stmt.blocks (parameters around : List String) : Stmt → List Block
  | .condition _ whenTrue whenFalse =>
    .ofStatements parameters around whenTrue ::
        innerBlocks parameters (whenTrue.flatMap Stmt.declared ++ around) whenTrue ++
      .ofStatements parameters around whenFalse ::
        innerBlocks parameters (whenFalse.flatMap Stmt.declared ++ around) whenFalse
  | _ => []

/-- The blocks inside the statements of a block. -/
def innerBlocks (parameters around : List String) : List Stmt → List Block
  | [] => []
  | s :: rest => s.blocks parameters around ++ innerBlocks parameters around rest

end

/-- The blocks of a body: the body itself and those inside its statements. -/
def blocksOf (parameters : List String) (body : List Stmt) : List Block :=
  .ofStatements parameters [] body ::
    innerBlocks parameters (body.flatMap Stmt.declared) body

/-- The blocks of a member. A setter has one parameter, the value that is set. -/
def Member.blocks : Member → List Block
  | .property p =>
    (if p.getter.isPresent then blocksOf [] p.getter.body else []) ++
      if p.setter.isPresent then blocksOf ["value"] p.setter.body else []
  | .method m => blocksOf (m.parameters.map Parameter.name) m.body
  | .field _ | .foreign _ _ => []

/-! ## Hygiene -/

namespace Block

/-- Nothing in the block is hidden, if types are printed as `printed` says. -/
structure IsHygienic (printed : String → String) (b : Block) : Prop where
  /-- The variables that the block declares have different names. -/
  own_nodup : b.own.Nodup
  /-- No variable has the name of a parameter. -/
  variable_ne_parameter : ∀ name ∈ b.visible, name ∉ b.parameters
  /-- No parameter and no variable has the printed name of a type. -/
  type_free : ∀ type ∈ b.types, printed type ∉ b.parameters ∧ printed type ∉ b.visible

/-- What a bare name is bound to in a block. -/
inductive Binding where
  | parameter
  | variable
  deriving DecidableEq, Repr

/-- What the text of a block binds a bare name to: a variable hides a parameter, and both hide a
type, to which it is not bound. -/
def binding (b : Block) (name : String) : Option Binding :=
  if name ∈ b.visible then some .variable
  else if name ∈ b.parameters then some .parameter
  else none

variable {b : Block} {name : String}

theorem binding_eq_none_iff :
    b.binding name = none ↔ name ∉ b.parameters ∧ name ∉ b.visible := by
  unfold binding
  split_ifs with isVariable isParameter <;> simp_all

theorem binding_eq_parameter_iff :
    b.binding name = some .parameter ↔ name ∈ b.parameters ∧ name ∉ b.visible := by
  unfold binding
  split_ifs with isVariable isParameter <;> simp_all

/-- **What hygiene is for**: with different variables, a block is hygienic exactly if the name of
each parameter is bound to it and the printed name of each type is bound to nothing. -/
theorem isHygienic_iff (printed : String → String) (b : Block) :
    b.IsHygienic printed ↔
      b.own.Nodup ∧ (∀ name ∈ b.parameters, b.binding name = some .parameter) ∧
        ∀ type ∈ b.types, b.binding (printed type) = none := by
  simp only [binding_eq_parameter_iff, binding_eq_none_iff]
  constructor
  · rintro ⟨nodup, apart, free⟩
    exact ⟨nodup, fun name isParameter => ⟨isParameter, fun isVariable =>
      apart name isVariable isParameter⟩, free⟩
  · rintro ⟨nodup, bound, free⟩
    exact ⟨nodup, fun name isVariable isParameter => (bound name isParameter).2 isVariable, free⟩

end Block

/-- All blocks of a member are hygienic. -/
def Member.IsHygienic (printed : String → String) (m : Member) : Prop :=
  ∀ b ∈ m.blocks, b.IsHygienic printed

/-- All blocks of a class are hygienic. -/
def ClassDecl.IsHygienic (printed : String → String) (c : ClassDecl) : Prop :=
  ∀ m ∈ c.members, m.IsHygienic printed

end ServiceWriter

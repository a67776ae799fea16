import ServiceWriter.Proofs.CSharp.Names
import ServiceWriter.Proofs.TypeScript.Imports

/-!
# The names in a TypeScript text

A TypeScript text is made of words and signs of the language, constants, names that were checked and
simple names of types (`TypeScript.IsPiece`). Types are not checked here either: their simple names
stand in the text as the full names end, where they are printed as where they are imported.
-/

set_option autoImplicit false

namespace ServiceWriter

open Text

namespace TypeScript

open Layout

/-! ## Pieces -/

/-- The words and signs that are the same in every text. -/
def fixedTexts : List String := [
  "\n", "\n\n", " ", ".", ",", ":", ";", "(", ")", "<", ">", "\x7b", "\x7d", "=", "|", "-",
  "===", "!==", "&&", "||", "null", "true", "false", "0", "this", "new", "let", "if", "else",
  "return", "get", "set", "value", "toString", "object", "string", "boolean", "number", "void",
  "public", "private", "protected", "static", "export", "class", "namespace", "import", "from"]

/-- A piece of a text on whose walk the given types are visited. -/
inductive IsPiece (types : List String) : String → Prop
  | fixed {text : String} (listed : text ∈ fixedTexts) : IsPiece types text
  | quoted (value : String) : IsPiece types (quote value)
  | number (value : Binary64) : IsPiece types value.text
  /-- A name that was checked. -/
  | name {name : String} (valid : isIdentifier name = true) : IsPiece types name
  | simpleName {fullName : String} (used : fullName ∈ types) : IsPiece types (simpleName fullName)

/-- What is known of a site if nothing is wrong with it. -/
def Sound (types : List String) : Site → Prop
  | .member name | .binding name => isIdentifier name = true
  | .number value => value.isFinite = true
  | .foreign _ => False
  | .type fullName => fullName ∈ types

/-- All texts among the pieces laid out are pieces. -/
def Holds (types : List String) (pieces : List Piece) : Prop :=
  ∀ text, .text text ∈ pieces → IsPiece types text

namespace Holds

variable {types : List String} {pieces pieces' : List Piece} {text : String}

theorem nil : Holds types [] := fun _ member => nomatch member

theorem cons (first : IsPiece types text) (rest : Holds types pieces) :
    Holds types (.text text :: pieces) := by
  intro other member
  rcases List.mem_cons.mp member with same | member
  · cases same
    exact first
  · exact rest other member

theorem single (holds : IsPiece types text) : Holds types [.text text] := cons holds nil

/-- A word or a sign before other pieces. -/
theorem fixed (rest : Holds types pieces) (listed : text ∈ fixedTexts := by decide) :
    Holds types (.text text :: pieces) :=
  cons (.fixed listed) rest

theorem append (first : Holds types pieces) (second : Holds types pieces') :
    Holds types (pieces ++ pieces') := by
  intro text member
  rcases List.mem_append.mp member with member | member
  · exact first text member
  · exact second text member

theorem joined {separator : List Piece} (between : Holds types separator)
    {items : List (List Piece)} (each : ∀ item ∈ items, Holds types item) :
    Holds types (joined separator items) := by
  induction items with
  | nil => exact nil
  | cons first rest ih =>
    rw [List.forall_mem_cons] at each
    cases rest with
    | nil => exact each.1
    | cons second rest => exact (each.1.append between).append (ih each.2)

theorem commaSeparated {items : List (List Piece)} (each : ∀ item ∈ items, Holds types item) :
    Holds types (commaSeparated items) :=
  joined (fixed (fixed nil)) each

theorem inParentheses (inside : Holds types pieces) : Holds types (inParentheses pieces) :=
  fixed (inside.append (fixed nil))

/-- What is no text does not matter. -/
theorem skip {piece : Piece} (silent : ∀ text, .text text ≠ piece) (rest : Holds types pieces) :
    Holds types (piece :: pieces) := by
  intro text member
  exact rest text (List.mem_of_ne_of_mem (silent text) member)

theorem endLine (rest : Holds types pieces) : Holds types (.endLine :: pieces) :=
  skip (fun _ same => nomatch same) rest

theorem deeper (rest : Holds types pieces) : Holds types (.deeper :: pieces) :=
  skip (fun _ same => nomatch same) rest

theorem back (rest : Holds types pieces) : Holds types (.back :: pieces) :=
  skip (fun _ same => nomatch same) rest

theorem block {items : List (List Piece)} (each : ∀ item ∈ items, Holds types item) :
    Holds types (block items) := by
  have close : Holds types [.endLine, .text "\x7d"] := endLine (fixed nil)
  unfold Layout.block
  split
  · exact fixed close
  · have enter : Holds types [.text "\x7b", .deeper, .endLine] :=
      fixed (deeper (endLine nil))
    exact (enter.append (joined (endLine nil) each)).append (back close)

end Holds

variable {types : List String}

/-! ## Types and expressions -/

theorem mem_fixedTexts_of_keyword {keyword : String}
    (listed : keywordTypes.contains keyword = true) : keyword ∈ fixedTexts := by
  have all : ∀ keyword ∈ keywordTypes, keyword ∈ fixedTexts := by decide
  exact all keyword (List.contains_iff_mem.mp listed)

theorem holds_typeArgumentPieces {arguments : List TypeNode}
    (each : ∀ item ∈ typePieces arguments, Holds types item) :
    Holds types (typeArgumentPieces arguments) := by
  unfold typeArgumentPieces
  split
  · exact .nil
  · exact .fixed ((Holds.commaSeparated each).append (.fixed .nil))

mutual

theorem holds_nodeOf : ∀ type : TypeRef, (∀ site ∈ type.sites, Sound types site) →
    Holds types (nodeOf type).pieces
  | .mk fullName arguments => by
    intro sound
    rw [TypeRef.sites] at sound
    rw [nodeOf]
    split at sound
    · next keyword =>
      rw [if_pos keyword, TypeNode.pieces]
      exact .fixed .nil (mem_fixedTexts_of_keyword keyword)
    · next keyword =>
      rw [List.forall_mem_cons] at sound
      rw [if_neg keyword, TypeNode.pieces]
      exact .cons (.simpleName sound.1)
        (holds_typeArgumentPieces (holds_nodesOf arguments sound.2))

theorem holds_nodesOf : ∀ list : List TypeRef, (∀ site ∈ typeSites list, Sound types site) →
    ∀ item ∈ typePieces (nodesOf list), Holds types item
  | [] => by
    intro _ item member
    cases member
  | type :: rest => by
    intro sound
    rw [typeSites, List.forall_mem_append] at sound
    rw [nodesOf, typePieces, List.forall_mem_cons]
    exact ⟨holds_nodeOf type sound.1, holds_nodesOf rest sound.2⟩

end

theorem holds_literalTerm (value : Literal) (sound : ∀ site ∈ value.sites, Sound types site) :
    Holds types (literalTerm value).pieces := by
  cases value with
  | null => exact .fixed .nil
  | bool value => cases value <;> exact .fixed .nil
  | text value => exact .single (.quoted value)
  | number value =>
    rw [literalTerm]
    split
    · exact .fixed .nil
    · split
      · exact .fixed (.single (.number value.abs))
      · exact .single (.number value)

theorem holds_operand (e : Expr) {term : Term} (holds : Holds types term.pieces) :
    Holds types (operand e term).pieces := by
  unfold operand
  split
  · exact holds.inParentheses
  · exact holds

theorem holds_accessTarget {target : Term} {pieces : List Piece} (holds : Holds types pieces) :
    Holds types (accessTarget target pieces) := by
  unfold accessTarget
  split
  · exact holds.inParentheses
  · exact holds.inParentheses
  · split
    · exact holds.append (.fixed .nil)
    · exact holds
  · exact holds

theorem isPiece_calledName {method : String} (valid : isIdentifier method = true) :
    IsPiece types (calledName method) := by
  have renamed : ∀ entry ∈ renamedMethods, entry.2 ∈ fixedTexts := by decide
  unfold calledName
  cases found : renamedMethods.lookup method with
  | some name => exact .fixed (renamed _ (mem_of_lookup found))
  | none => exact .name valid

theorem mem_fixedTexts_operatorSign (operator : Operator) : operatorSign operator ∈ fixedTexts := by
  cases operator <;> decide

mutual

theorem holds_termOf : ∀ e : Expr, (∀ site ∈ e.sites, Sound types site) →
    Holds types (termOf e).pieces
  | .literal value => by
    intro sound
    rw [termOf]
    exact holds_literalTerm value sound
  | .this => by
    intro _
    rw [termOf]
    exact .fixed .nil
  | .field target name | .property target name => by
    intro sound
    rw [Expr.sites, List.forall_mem_cons] at sound
    rw [termOf, Term.pieces]
    exact (holds_accessTarget (holds_termOf target sound.2)).append
      (.fixed (.single (.name sound.1)))
  | .variableRef name | .argumentRef name => by
    intro sound
    rw [Expr.sites, List.forall_mem_singleton] at sound
    rw [termOf, Term.pieces]
    exact .single (.name sound)
  | .typeName type => by
    intro sound
    rw [Expr.sites, List.forall_mem_singleton] at sound
    rw [termOf, Term.pieces]
    exact .single (.simpleName sound)
  | .create type arguments => by
    intro sound
    rw [Expr.sites, List.forall_mem_cons, List.forall_mem_append] at sound
    rw [termOf, Term.pieces]
    have types := holds_typeArgumentPieces (holds_nodesOf type.arguments sound.2.1)
    have inside := Holds.commaSeparated (holds_termsOf arguments sound.2.2)
    exact ((Holds.fixed (.fixed (.single (.simpleName sound.1)))).append types).append
      inside.inParentheses
  | .invoke target method arguments => by
    intro sound
    rw [Expr.sites, List.forall_mem_cons, List.forall_mem_append] at sound
    rw [termOf, Term.pieces, Term.pieces]
    have inside := Holds.commaSeparated (holds_termsOf arguments sound.2.2)
    exact ((holds_accessTarget (holds_termOf target sound.2.1)).append
      (.fixed (.single (isPiece_calledName sound.1)))).append inside.inParentheses
  | .binary left operator right => by
    intro sound
    rw [Expr.sites, List.forall_mem_append] at sound
    rw [termOf, Term.pieces]
    have sign : Holds types [.text " ", .text (operatorSign operator), .text " "] :=
      .fixed (.fixed (.fixed .nil) (mem_fixedTexts_operatorSign operator))
    exact ((holds_operand left (holds_termOf left sound.1)).append sign).append
      (holds_operand right (holds_termOf right sound.2))
  | .foreign _ => by
    intro sound
    exact absurd (sound _ List.mem_cons_self) id

theorem holds_termsOf : ∀ es : List Expr, (∀ site ∈ exprSites es, Sound types site) →
    ∀ item ∈ termPieces (termsOf es), Holds types item
  | [] => by
    intro _ item member
    cases member
  | e :: rest => by
    intro sound
    rw [exprSites, List.forall_mem_append] at sound
    rw [termsOf, termPieces, List.forall_mem_cons]
    exact ⟨holds_termOf e sound.1, holds_termsOf rest sound.2⟩

end

/-! ## Statements -/

theorem holds_valuePieces (value : Option Expr)
    (sound : ∀ site ∈ optionSites value, Sound types site) :
    Holds types (valuePieces (value.map termOf)) := by
  cases value with
  | none => exact .nil
  | some e => exact .fixed (.fixed (.fixed (holds_termOf e sound)))

theorem holds_binding {name : String} {type : TypeNode} (valid : IsPiece types name)
    (holds : Holds types type.pieces) : Holds types (Binding.pieces ⟨name, type⟩) :=
  .cons valid (.fixed (.fixed holds))

theorem holds_commandPieces {commands : List Command}
    (each : ∀ command ∈ commands, Holds types command.pieces) :
    ∀ item ∈ commandPieces commands, Holds types item := by
  induction commands with
  | nil =>
    intro item member
    cases member
  | cons command rest ih =>
    rw [List.forall_mem_cons] at each
    rw [commandPieces, List.forall_mem_cons]
    exact ⟨each.1, ih each.2⟩

mutual

theorem holds_commandsOf : ∀ s : Stmt, (∀ site ∈ s.sites, Sound types site) →
    ∀ command ∈ commandsOf s, Holds types command.pieces
  | .declare type name value => by
    intro sound
    rw [Stmt.sites, List.forall_mem_cons, List.forall_mem_append] at sound
    rw [commandsOf, List.forall_mem_singleton, Command.pieces]
    have initial := holds_valuePieces value sound.2.2
    have bound := holds_binding (.name sound.1) (holds_nodeOf type sound.2.1)
    exact ((Holds.fixed (.fixed bound)).append initial).append (.fixed .nil)
  | .assign left right => by
    intro sound
    rw [Stmt.sites, List.forall_mem_append] at sound
    rw [commandsOf, List.forall_mem_singleton, Command.pieces]
    have sign : Holds types [.text " ", .text "=", .text " "] := .fixed (.fixed (.fixed .nil))
    exact (((holds_termOf left sound.1).append sign).append
      (holds_termOf right sound.2)).append (.fixed .nil)
  | .condition test whenTrue whenFalse => by
    intro sound
    rw [Stmt.sites, List.forall_mem_append, List.forall_mem_append] at sound
    rw [commandsOf, List.forall_mem_singleton, Command.pieces]
    have body := Holds.block (holds_commandPieces (holds_blockOf whenTrue sound.2.1))
    have test := (holds_termOf test sound.1).inParentheses
    refine ((((Holds.fixed (.fixed .nil)).append test).append (.fixed .nil)).append body).append ?_
    split
    · exact .nil
    · exact (Holds.endLine (.fixed (.fixed .nil))).append
        (.block (holds_commandPieces (holds_blockOf whenFalse sound.2.2)))
  | .returns none => by
    intro _
    rw [commandsOf, List.forall_mem_singleton]
    exact .fixed (.fixed .nil)
  | .returns (some value) => by
    intro sound
    rw [commandsOf, List.forall_mem_singleton]
    exact (Holds.fixed (.fixed (holds_termOf value sound))).append (.fixed .nil)
  | .expression value => by
    intro sound
    rw [commandsOf, List.forall_mem_singleton, Command.pieces]
    exact (holds_termOf value sound).append (.fixed .nil)
  | .foreign _ => by
    intro _ command member
    cases member

theorem holds_blockOf : ∀ body : List Stmt, (∀ site ∈ stmtSites body, Sound types site) →
    ∀ command ∈ blockOf body, Holds types command.pieces
  | [] => by
    intro _ command member
    cases member
  | s :: rest => by
    intro sound
    rw [stmtSites, List.forall_mem_append] at sound
    rw [blockOf, List.forall_mem_append]
    exact ⟨holds_commandsOf s sound.1, holds_blockOf rest sound.2⟩

end

end TypeScript

/-! ## Both languages -/

end ServiceWriter

import ServiceWriter.Code.Tree
import ServiceWriter.Target.Layout
import ServiceWriter.Target.TypeScriptString

/-!
# TypeScript syntax and its layout

The part of TypeScript that emission needs, as syntax trees, and how they are laid out. The trees hold
names as they are printed; which types to import has been settled before.

Parentheses are printed where the tree has them and, besides, where a property access would otherwise
take only a part of its target. A whole number needs a dot of its own before the dot of a property
access.
-/

set_option autoImplicit false

namespace ServiceWriter.TypeScript

open Layout

/-! ## Syntax -/

/-- A type: a keyword, a name with type arguments, or a type that also admits `null`. -/
inductive TypeNode where
  | keyword (name : String)
  | reference (name : String) (arguments : List TypeNode)
  | orNull (type : TypeNode)

/-- An expression. A number is held by its text, a negative one by that of its absolute value. -/
inductive Term where
  | word (keyword : String)
  | text (value : String)
  | number (digits : String)
  | negated (digits : String)
  | name (name : String)
  | access (target : Term) (name : String)
  | call (callee : Term) (arguments : List Term)
  | create (name : String) (typeArguments : List TypeNode) (arguments : List Term)
  | binary (left : Term) (sign : String) (right : Term)
  | parenthesised (inner : Term)

/-- A statement. An empty `whenFalse` stands for no `else`. -/
inductive Command where
  | declare (name : String) (type : TypeNode) (value : Option Term)
  | assign (left right : Term)
  | condition (test : Term) (whenTrue whenFalse : List Command)
  | returns (value : Option Term)
  | expression (value : Term)

/-- A name with its type, as in a parameter list. -/
structure Binding where
  name : String
  type : TypeNode

/-- An element of a class. -/
inductive Element where
  | field (access : Access) (isStatic : Bool) (binding : Binding) (value : Option Term)
  | getter (access : Access) (binding : Binding) (body : List Command)
  | setter (access : Access) (binding : Binding) (body : List Command)
  | method (access : Access) (isStatic : Bool) (name : String) (parameters : List Binding)
      (returnType : TypeNode) (body : List Command)

/-- A class. -/
structure ClassNode where
  isExported : Bool
  name : String
  elements : List Element

/-- A declaration of a module: a class or a namespace, which is always exported. -/
inductive Declaration where
  | classNode (node : ClassNode)
  | space (name : String) (body : List Declaration)

/-- The names that are imported from one module. -/
structure Import where
  specifier : String
  names : List String
  deriving DecidableEq, Repr

/-! ## Layout of types and expressions -/

mutual

/-- A type. -/
def TypeNode.pieces : TypeNode → List Piece
  | .keyword name => [.text name]
  | .reference name arguments =>
    .text name :: (if arguments.isEmpty then []
      else .text "<" :: commaSeparated (typePieces arguments) ++ [.text ">"])
  | .orNull type => type.pieces ++ [.text " ", .text "|", .text " ", .text "null"]

/-- A list of types. -/
def typePieces : List TypeNode → List (List Piece)
  | [] => []
  | type :: rest => type.pieces :: typePieces rest

end

/-- A list of type arguments, nothing if there are none. -/
def typeArgumentPieces (arguments : List TypeNode) : List Piece :=
  if arguments.isEmpty then []
  else .text "<" :: commaSeparated (typePieces arguments) ++ [.text ">"]

/-- Pieces in parentheses. -/
def inParentheses (pieces : List Piece) : List Piece :=
  .text "(" :: pieces ++ [.text ")"]

/-- Whether the text of a number is that of a whole number, which would take a dot after it for its
own. -/
def isWholeText (digits : String) : Bool :=
  digits.toList.all fun c => c != '.' && c != 'e' && c != 'E'

/-- The target of a property access before its dot, laid out as `pieces` on its own. -/
def accessTarget (target : Term) (pieces : List Piece) : List Piece :=
  match target with
  | .binary .. | .negated _ => inParentheses pieces
  | .number digits => if isWholeText digits then pieces ++ [.text "."] else pieces
  | _ => pieces

mutual

/-- An expression. -/
def Term.pieces : Term → List Piece
  | .word keyword => [.text keyword]
  | .text value => [.text (quote value)]
  | .number digits => [.text digits]
  | .negated digits => [.text "-", .text digits]
  | .name name => [.text name]
  | .access target name => accessTarget target target.pieces ++ [.text ".", .text name]
  | .call callee arguments => callee.pieces ++ inParentheses (commaSeparated (termPieces arguments))
  | .create name typeArguments arguments =>
    [.text "new", .text " ", .text name] ++ typeArgumentPieces typeArguments ++
      inParentheses (commaSeparated (termPieces arguments))
  | .binary left sign right =>
    left.pieces ++ [.text " ", .text sign, .text " "] ++ right.pieces
  | .parenthesised inner => inParentheses inner.pieces

/-- A list of expressions. -/
def termPieces : List Term → List (List Piece)
  | [] => []
  | term :: rest => term.pieces :: termPieces rest

end

/-- An initial value after its sign, nothing if there is none. -/
def valuePieces : Option Term → List Piece
  | none => []
  | some value => [.text " ", .text "=", .text " "] ++ value.pieces

/-- A name with its type. -/
def Binding.pieces (binding : Binding) : List Piece :=
  [.text binding.name, .text ":", .text " "] ++ binding.type.pieces

/-! ## Layout of statements -/

mutual

/-- A statement. -/
def Command.pieces : Command → List Piece
  | .declare name type value =>
    [.text "let", .text " "] ++ Binding.pieces ⟨name, type⟩ ++ valuePieces value ++ [.text ";"]
  | .assign left right =>
    left.pieces ++ [.text " ", .text "=", .text " "] ++ right.pieces ++
      [.text ";"]
  | .condition test whenTrue whenFalse =>
    [.text "if", .text " "] ++ inParentheses test.pieces ++ [.text " "] ++
      block (commandPieces whenTrue) ++
      (if whenFalse.isEmpty then []
        else [.endLine, .text "else", .text " "] ++ block (commandPieces whenFalse))
  | .returns none => [.text "return", .text ";"]
  | .returns (some value) => [.text "return", .text " "] ++ value.pieces ++ [.text ";"]
  | .expression value => value.pieces ++ [.text ";"]

/-- A list of statements. -/
def commandPieces : List Command → List (List Piece)
  | [] => []
  | command :: rest => command.pieces :: commandPieces rest

end

/-! ## Layout of declarations -/

/-- The words before a class element. An access without a word in TypeScript is left out. -/
def modifierPieces (access : Access) (isStatic : Bool) : List Piece :=
  (if access = .assembly then [] else [.text access.keyword, .text " "]) ++
    (if isStatic then [.text "static", .text " "] else [])

/-- An element of a class. -/
def Element.pieces : Element → List Piece
  | .field access isStatic binding value =>
    modifierPieces access isStatic ++ binding.pieces ++ valuePieces value ++ [.text ";"]
  | .getter access binding body =>
    modifierPieces access false ++
      [.text "get", .text " ", .text binding.name, .text "(", .text ")", .text ":", .text " "] ++
      binding.type.pieces ++ [.text " "] ++ block (commandPieces body)
  | .setter access binding body =>
    modifierPieces access false ++ [.text "set", .text " ", .text binding.name] ++
      inParentheses (Binding.pieces ⟨"value", binding.type⟩) ++ [.text " "] ++
      block (commandPieces body)
  | .method access isStatic name parameters returnType body =>
    modifierPieces access isStatic ++ [.text name] ++
      inParentheses (commaSeparated (parameters.map Binding.pieces)) ++ [.text ":", .text " "] ++
      returnType.pieces ++ [.text " "] ++ block (commandPieces body)

/-- A class. -/
def ClassNode.pieces (node : ClassNode) : List Piece :=
  (if node.isExported then [.text "export", .text " "] else []) ++
    [.text "class", .text " ", .text node.name, .text " "] ++
    block (node.elements.map Element.pieces)

mutual

/-- A declaration. A namespace with nothing in it stands on one line. -/
def Declaration.pieces : Declaration → List Piece
  | .classNode node => node.pieces
  | .space name body =>
    [.text "export", .text " ", .text "namespace", .text " ", .text name, .text " "] ++
      (if body.isEmpty then [.text "\x7b", .text " ", .text "\x7d"]
        else block (declarationPieces body))

/-- A list of declarations. -/
def declarationPieces : List Declaration → List (List Piece)
  | [] => []
  | declaration :: rest => declaration.pieces :: declarationPieces rest

end

/-- An import of names from a module. -/
def Import.pieces (i : Import) : List Piece :=
  [.text "import", .text " ", .text "\x7b", .text " "] ++
    commaSeparated (i.names.map fun name => [.text name]) ++
    [.text " ", .text "\x7d", .text " ", .text "from", .text " ", .text (quote i.specifier),
      .text ";"]

/-- The text of a module: its imports, one on a line, then its declarations, with an empty line
between each two of these parts. -/
def moduleText (imports : List Import) (body : List Declaration) : String :=
  let importText := "\n".intercalate (imports.map fun i => render i.pieces)
  let bodyText := "\n\n".intercalate (body.map fun d => render d.pieces)
  "\n\n".intercalate ([importText, bodyText].filter fun text => text != "") ++ "\n"

end ServiceWriter.TypeScript

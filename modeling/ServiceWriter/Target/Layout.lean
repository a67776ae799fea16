/-!
# Layout

Source text with nested blocks is first a list of pieces: texts, ends of line and changes of depth.
`Layout.render` puts the pieces on a page. The white space before a line is written together with the
first text on it, so that a line without text stays empty. A text that itself ends in a line break
leaves the page at the start of a line.
-/

set_option autoImplicit false

namespace ServiceWriter.Layout

/-- A part of a laid-out text. -/
inductive Piece where
  | text (value : String)
  /-- Ends the line, unless the page is at the start of one. -/
  | endLine
  /-- What follows stands one level deeper. -/
  | deeper
  /-- What follows stands one level less deep. -/
  | back
  deriving DecidableEq, Repr

/-- A page with what is written on it so far. -/
structure Page where
  written : String := ""
  depth : Nat := 0
  atLineStart : Bool := true

/-- The characters that end a line within a text. -/
def isLineBreak (c : Char) : Bool :=
  c == '\n' || c == '\r' || c == '\u2028' || c == '\u2029'

/-- Whether the last character of a text ends a line. -/
def endsLine (text : String) : Bool :=
  match text.toList.getLast? with
  | some c => isLineBreak c
  | none => false

/-- The white space before a line. -/
def indentation (depth : Nat) : String :=
  String.ofList (List.replicate (4 * depth) ' ')

/-- Puts one piece on the page. -/
def Page.put (page : Page) : Piece → Page
  | .text value =>
    if value = "" then
      page
    else
      let before := if page.atLineStart then indentation page.depth else ""
      { page with
        written := page.written ++ before ++ value
        atLineStart := endsLine value }
  | .endLine =>
    if page.atLineStart then page
    else { page with written := page.written ++ "\n", atLineStart := true }
  | .deeper => { page with depth := page.depth + 1 }
  | .back => { page with depth := page.depth - 1 }

/-- The text of a list of pieces. -/
def render (pieces : List Piece) : String :=
  (pieces.foldl Page.put {}).written

/-! ## Combining pieces -/

/-- Lists of pieces with a separator between each two. -/
def joined (separator : List Piece) : List (List Piece) → List Piece
  | [] => []
  | [last] => last
  | first :: rest => first ++ separator ++ joined separator rest

/-- Items on one line, with commas between them. -/
def commaSeparated (items : List (List Piece)) : List Piece :=
  joined [.text ",", .text " "] items

/-- A block in braces: one item on a line each, one level deeper. Without items the closing brace
stands on the line after the opening one. -/
def block (items : List (List Piece)) : List Piece :=
  if items.isEmpty then
    [.text "\x7b", .endLine, .text "\x7d"]
  else
    [.text "\x7b", .deeper, .endLine] ++ joined [.endLine] items ++ [.back, .endLine, .text "\x7d"]

end ServiceWriter.Layout

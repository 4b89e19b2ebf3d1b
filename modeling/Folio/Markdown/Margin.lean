import Folio.Markdown.Cursor
/-!
# Margins

A line belongs to an open container if it begins with what that container puts at the beginning of
its lines: a quote puts a mark there, a list item and a footnote put blanks, a list puts nothing. The
containers around a block, the outermost first, are its margin. A line matches a margin from the
outside in, as far as it goes; past the part that matched stands what the line says.

A blank line is in every item and every footnote, however short its indentation.
-/

namespace Folio.Markdown

/-- A block that holds blocks. The number of an ordered list is that of its first item; a tight list
has no blank line between its items or inside one. -/
inductive Container where
  | quote
  | list (marker : Char) (number : Nat) (tight : Bool)
  | item (indent : Nat)
  | footnote
deriving DecidableEq, Repr

/-- Columns of a footnote's lines that are its indentation. -/
def footnoteIndent : Nat := 4

/-- Columns of indentation that make a line code. -/
def codeIndent : Nat := 4

namespace Cursor

/-- Past `n` columns; a blank line may have fewer. -/
def indented? (c : Cursor) (n : Nat) : Option Cursor :=
  let (missing, next) := c.takeColumns n
  if missing = 0 || next.atLineEnd then some next else none

end Cursor

/-- Past the beginning of a line that is in the container. -/
def Container.begin? (container : Container) (c : Cursor) : Option Cursor :=
  match container with
  | .quote => (c.takeColumns (codeIndent - 1)).2.quoteMark?
  | .list _ _ _ => some c
  | .item indent => c.indented? indent
  | .footnote => c.indented? footnoteIndent

abbrev Margin := List Container

namespace Margin

/-- How many containers a line is in, and where it goes on. -/
def reach : Margin → Cursor → Nat × Cursor
  | [], c => (0, c)
  | container :: inner, c =>
    match container.begin? c with
    | some next =>
      let (n, last) := reach inner next
      (n + 1, last)
    | none => (0, c)

/-- Where a line goes on past the margin, and whether it is in all containers. -/
def start (margin : Margin) (line : List Char) : Bool × Cursor :=
  let (n, c) := margin.reach ⟨line, 0, 0⟩
  (n = List.length margin, c)

/-- Where a line goes on if it is in all containers. -/
def start? (margin : Margin) (line : List Char) : Option Cursor :=
  let (inside, c) := margin.start line
  if inside then some c else none

/-- A line of a paragraph past its margin and its indentation. -/
def continueLine (margin : Margin) (line : List Char) : List Char :=
  (margin.start line).2.skipAllSpace.rest

/-- A line past its margin alone. -/
def pastMargin (margin : Margin) (line : List Char) : List Char :=
  (margin.start line).2.rest

end Margin

end Folio.Markdown

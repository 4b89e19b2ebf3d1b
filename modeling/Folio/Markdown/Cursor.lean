import Folio.Markdown.Scan
import Folio.Text.Ascii
/-!
# Columns at the beginning of a line

What a line belongs to is decided by its indentation, counted in columns. A tab reaches to the next
multiple of four columns, and may be taken in parts: the columns of a tab that have been reached but
not taken are `pending`. Only markers stand before the point that a cursor has reached, so characters
and columns agree but for tabs.
-/

namespace Folio.Markdown

structure Cursor where
  rest : List Char
  sinceTab : Nat := 0
  pending : Nat := 0

namespace Cursor

/-- Takes up to `n` columns of blank, past those pending. The number is what could not be taken. -/
def takeFresh : List Char → Nat → Nat → Nat × Cursor
  | rest, sinceTab, 0 => (0, ⟨rest, sinceTab, 0⟩)
  | [], sinceTab, n + 1 => (n + 1, ⟨[], sinceTab, 0⟩)
  | c :: rest, sinceTab, n + 1 =>
    if c = ' ' then takeFresh rest (sinceTab + 1) n
    else if c = '\t' then
      let width := 4 - sinceTab % 4
      if n + 1 ≤ width then (0, ⟨rest, 0, width - (n + 1)⟩)
      else takeFresh rest 0 (n + 1 - width)
    else (n + 1, ⟨c :: rest, sinceTab, 0⟩)

/-- Takes up to `n` columns. The number is what could not be taken. -/
def takeColumns (c : Cursor) (n : Nat) : Nat × Cursor :=
  if n ≤ c.pending then (0, { c with pending := c.pending - n })
  else takeFresh c.rest c.sinceTab (n - c.pending)

/-- Up to `n` columns, and how many there were. -/
def countColumns (c : Cursor) (n : Nat) : Nat × Cursor :=
  let (missing, next) := c.takeColumns n
  (n - missing, next)

def skipAllSpace (c : Cursor) : Cursor :=
  { c with rest := c.rest.dropWhile Text.isSpaceOrTab, pending := 0 }

def atLineEnd (c : Cursor) : Bool :=
  Markdown.atLineEnd c.rest

/-- Moves past characters that are not tabs. -/
def advance (c : Cursor) (n : Nat) : Cursor :=
  { c with rest := c.rest.drop n, sinceTab := c.sinceTab + n }

/-- A `>` and at most one column after it. -/
def quoteMark? (c : Cursor) : Option Cursor :=
  match c.rest with
  | '>' :: _ => some ((c.advance 1).takeColumns 1).2
  | _ => none

end Cursor

end Folio.Markdown

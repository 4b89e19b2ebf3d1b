import Folio.Markdown.Margin
import Folio.Markdown.Reference
/-!
# Marks that start blocks

What a line says at its beginning: a thematic break, a heading, a fence, the marker of a list item, a
task marker, the label of a footnote, the row under the head of a table. Each function reads one of
these and answers what it says and what remains.
-/

namespace Folio.Markdown

/-- Three or more of one of the marks `*`, `-` and `_`, with nothing but blanks between; the answer
is the text after the line. -/
def thematicBreak? (text : List Char) : Option (List Char) :=
  match text with
  | mark :: _ =>
    let ofBreak (c : Char) := c = mark || Text.isSpaceOrTab c
    if (mark = '*' || mark = '-' || mark = '_') && 3 ≤ (text.takeWhile ofBreak).count mark then
      lineEnd? (text.dropWhile ofBreak)
    else none
  | [] => none

/-- The deepest heading. -/
def maxHeading : Nat := 6

/-- The level of a heading marked by `#`, and the text after the marks. -/
def headingMark? (text : List Char) : Option (Nat × List Char) :=
  let level := repeated '#' text
  let rest := text.drop level
  let ended := match rest with
    | c :: _ => isAsciiBlank c
    | [] => true
  if 1 ≤ level && level ≤ maxHeading && ended then some (level, rest) else none

/-- The level that an underline gives to the paragraph above it, and the text after the line. -/
def underline? (text : List Char) : Option (Nat × List Char) :=
  match text with
  | '=' :: _ => (blankLine? (text.dropWhile (· = '='))).map (1, ·)
  | '-' :: _ => (blankLine? (text.dropWhile (· = '-'))).map (2, ·)
  | _ => none

/-- What opened a block of code, and so what closes it. -/
structure Fence where
  mark : Char
  size : Nat

/-- The fence on a line that opens a block of code. After a fence of backticks the line has no other
backtick. -/
def fence? (text : List Char) : Option Fence :=
  match text with
  | mark :: _ =>
    if mark = '\x60' || mark = '~' then
      let size := repeated mark text
      if 3 ≤ size && !(mark = '\x60' && (feedLine (text.drop size)).contains mark) then
        some ⟨mark, size⟩
      else none
    else none
  | [] => none

/-- After the line that closes a block of code; the end of the text closes it too. -/
def Fence.close? (fence : Fence) (text : List Char) : Option (List Char) :=
  if text.isEmpty then some []
  else
    let size := repeated fence.mark text
    let rest := (text.drop size).dropWhile (· = ' ')
    if fence.size ≤ size && atLineEnd rest then some rest else none

/-- The marker of a list item: a bullet, or a number with a mark after it. -/
structure ListMarker where
  mark : Char
  number : Nat
  width : Nat

def ListMarker.isBullet (marker : ListMarker) : Bool :=
  marker.mark = '-' || marker.mark = '+' || marker.mark = '*'

/-- The most digits that the number of an item may have. -/
def maxNumberWidth : Nat := 9

/-- A marker at the beginning of a text. Whether the item starts is for what follows to say. -/
def listMarker? (text : List Char) : Option ListMarker :=
  match text with
  | c :: _ =>
    if c = '-' || c = '+' || c = '*' then some ⟨c, 0, 1⟩
    else
      let digits := text.takeWhile Text.isAsciiDigit
      match text.drop digits.length with
      | mark :: _ =>
        if 1 ≤ digits.length && digits.length ≤ maxNumberWidth && (mark = '.' || mark = ')') then
          some ⟨mark, Text.digitsValue digits, digits.length + 1⟩
        else none
      | [] => none
  | [] => none

/-- The start of an item where a line goes on: its marker, the columns by which its lines are
indented past `indent`, and where its content begins. -/
def itemStart? (c : Cursor) : Option (ListMarker × Nat × Cursor) := do
  let marker ← listMarker? c.rest
  if (thematicBreak? c.rest).isSome then none
  else
    let (missing, next) := (c.advance marker.width).takeColumns 1
    if missing ≠ 0 && !next.atLineEnd then none
    else
      let indent := marker.width + 1
      if isBlankLine next.rest then some (marker, indent, next)
      else
        let (more, inner) := next.countColumns codeIndent
        if more < codeIndent then some (marker, indent + more, inner)
        else some (marker, indent, next)

/-- Whether an item starts that may break into a paragraph. A paragraph of the same containers is
broken only by a bullet or by the number one, and not by an item whose first two lines are blank. -/
def interruptsAsItem (inside : Bool) (text : List Char) : Bool :=
  match listMarker? text with
  | none => false
  | some marker =>
    let rest := text.drop marker.width
    let starts := match rest with
      | c :: _ => Text.isSpaceOrTab c || isLineEnd c
      | [] => true
    let blank := match blankLine? rest with
      | some after => isBlankLine after
      | none => false
    starts && (!inside || ((marker.isBullet || marker.number = 1) && !blank))

/-- A task marker at the beginning of an item, and where the text goes on. -/
def taskMarker? (c : Cursor) : Option (Bool × Cursor) :=
  let (_, c) := c.takeColumns (codeIndent - 1)
  match c.rest with
  | '[' :: mark :: ']' :: after :: _ =>
    let checked := mark = 'x' || mark = 'X'
    if (checked || isLineBlank mark) && isAsciiBlank after then some (checked, c.advance 3) else none
  | _ => none

/-- The label of a footnote's definition, and the text after the colon. -/
def footnoteStart? (text : List Char) : Option (List Char × List Char) :=
  match text with
  | '[' :: '^' :: rest => do
    let (label, rest) ← label? (fun _ => none) rest
    match rest with
    | ':' :: rest => some (label, rest)
    | _ => none
  | _ => none

/-! ### Tables -/

/-- Pipes that no backslash stands before, and the text after the last of them. -/
def countPipes (escaped : Bool) : List Char → Nat × List Char
  | [] => (0, [])
  | c :: rest =>
    let (n, tail) := countPipes (c = '\\') rest
    if c = '|' && !escaped then (n + 1, if n = 0 then rest else tail) else (n, tail)

/-- The number of columns of a head: one more than its pipes, less those at either end. -/
def headColumns? (line : List Char) : Option Nat :=
  let (pipes, tail) := countPipes false line
  if pipes = 0 then none
  else
    let inner := if (skipBlanks line).head? = some '|' then pipes - 1 else pipes
    some (if isBlankLine tail then inner else inner + 1)

/-- The number of columns that the row under a head has, from its characters. Each column has a
hyphen if a pipe ends it. -/
def ruleColumns? (hyphen begun : Bool) : List Char → Option Nat
  | [] => some (if begun then 1 else 0)
  | '|' :: rest => if hyphen then (ruleColumns? false false rest).map (· + 1) else none
  | '-' :: rest => ruleColumns? true true rest
  | ':' :: rest => ruleColumns? hyphen true rest
  | ' ' :: rest => ruleColumns? hyphen begun rest
  | _ => none

/-- The number of columns of the row under the head of a table, and the text after it. -/
def tableRule? (c : Cursor) : Option (Nat × List Char) := do
  let line := c.rest.takeWhile fun d => !isLineEnd d
  let (indent, _) := Cursor.countColumns ⟨line, 0, 0⟩ codeIndent
  let cells := line.dropWhile Text.isSpaceOrTab
  if codeIndent ≤ indent || !line.contains '|' || !line.contains '-' then none
  else
    let columns ← ruleColumns? false false (skipOne '|' cells)
    some (columns, afterLine c.rest)

/-- After the first two lines of a table: its head, and a row of as many columns. -/
def tableStart? (margin : Margin) (text : List Char) : Option (List Char) := do
  let columns ← headColumns? (text.takeWhile fun c => !isLineEnd c)
  let rest := text.dropWhile fun c => !isLineEnd c
  if rest.isEmpty then none
  else
    let c ← margin.start? (afterLine text)
    let (ruled, after) ← tableRule? c
    if ruled = columns then some after else none

end Folio.Markdown

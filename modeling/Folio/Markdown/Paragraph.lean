import Folio.Markdown.Html
import Folio.Markdown.Marks
/-!
# Paragraphs

A paragraph goes on from line to line until something breaks into it: the end of the text, a blank
line, or a line that starts another block. A line that is not in the paragraph's margin goes on with
it all the same. An underline makes the paragraph a heading; it has to be in the margin.

A paragraph whose first line can be the head of a table becomes one where the next line is the row
under a head.
-/

namespace Folio.Markdown

/-- Whether a line starts a block other than a table that breaks into a paragraph; `inside` if the
line is in the paragraph's margin. -/
def startsBlock (gfm inside : Bool) (text : List Char) : Bool :=
  atLineEnd text
    || (thematicBreak? text).isSome
    || (headingMark? text).isSome
    || (fence? text).isSome
    || text.head? = some '>'
    || interruptsAsItem inside text
    || (text.head? = some '<' &&
        ((Html.endMark? (text.drop 1)).isSome || Html.startsBlockTag (text.drop 1)))
    || (gfm && (footnoteStart? text).isSome)

/-- Whether a line breaks into a paragraph. A table does if its head starts with a pipe. -/
def interrupts (gfm : Bool) (margin : Margin) (inside : Bool) (text : List Char) : Bool :=
  startsBlock gfm inside text
    || (gfm && text.head? = some '|' && (tableStart? margin text).isSome)

/-- How the lines of a paragraph end. -/
structure ParagraphEnd where
  level : Option Nat
  stop : List Char
  rest : List Char

/-- Reads the lines of a paragraph after the first. -/
def paragraphEnd (gfm : Bool) (margin : Margin) (text : List Char) : ParagraphEnd :=
  let (inside, c) := margin.start text
  let (indent, inner) := c.countColumns codeIndent
  let underline := if indent < codeIndent && inside then underline? inner.rest else none
  match underline with
  | some (level, after) => ⟨some level, text, after⟩
  | none =>
    let line := inner.skipAllSpace.rest
    if atLineEnd line || (indent < codeIndent && interrupts gfm margin inside inner.rest) then
      ⟨none, text, text⟩
    else
      let after := afterLine line
      if _h : after.length < text.length then paragraphEnd gfm margin after else ⟨none, text, text⟩
termination_by text.length

/-- After the rows of a table. -/
def tableEnd (gfm : Bool) (margin : Margin) (text : List Char) : List Char :=
  match margin.start? text with
  | none => text
  | some c =>
    let row := c.skipAllSpace.rest
    if startsBlock gfm true row then text
    else
      let after := afterLine row
      if _h : after.length < text.length then tableEnd gfm margin after else text
termination_by text.length

/-- How a text goes on after a line end inside a definition: a line that would break into a paragraph
ends it. -/
def definitionLine (gfm : Bool) (margin : Margin) : NextLine := fun text =>
  let (inside, c) := margin.start text
  let (indent, inner) := c.countColumns codeIndent
  let broken := indent < codeIndent &&
    (interrupts gfm margin inside inner.rest || (inside && (underline? inner.rest).isSome))
  if broken then none else some inner.rest

end Folio.Markdown

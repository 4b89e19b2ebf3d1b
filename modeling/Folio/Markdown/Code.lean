import Folio.Markdown.Marks
import Folio.Text.Search
/-!
# Blocks of code and of HTML

Both run over whole lines, in which nothing is read but the signs of their end. Here only a line feed
ends a line. A block also ends before a line that is not in its margin.

Of HTML only the extent counts, for it stays as it is written.
-/

namespace Folio.Markdown

/-- What a block of lines comes to: its text, the rest of the source where its extent ends, and the
rest to go on with. -/
structure LineBlock where
  lines : List Char := []
  stop : List Char
  rest : List Char

def LineBlock.prependLines (lines : List Char) (block : LineBlock) : LineBlock :=
  { block with lines := lines ++ block.lines }

/-- A line of code: the blanks of a tab that was taken in part, and the line, in which a carriage
return before the last character is left out. -/
def codeLine (c : Cursor) : List Char :=
  let line := feedLine c.rest
  List.replicate c.pending ' ' ++
    match line.reverse with
    | last :: '\r' :: before => if last.toNat < 128 then before.reverse ++ [last] else line
    | _ => line

/-- The code from the line after a fence on; `indent` is how far the fence is indented, so much is
taken from each line. -/
def fencedCode (margin : Margin) (fence : Fence) (indent : Nat) (text : List Char) : LineBlock :=
  match margin.start? text with
  | none => { stop := text, rest := text }
  | some c =>
    let (_, inner) := c.takeColumns indent
    let (missing, last) := inner.takeColumns (codeIndent - indent)
    let closing := if missing = 0 then none else fence.close? last.rest
    match closing with
    | some after => { stop := after, rest := (blankLine? after).getD after }
    | none =>
      let after := afterFeed inner.rest
      if _h : after.length < text.length then
        (fencedCode margin fence indent after).prependLines (codeLine inner)
      else { lines := codeLine inner, stop := after, rest := after }
termination_by text.length

/-- Indented code from a line on, and whether a blank line precedes its end. Blank lines at the end
are not part of it; `held` are the blank lines that may be. -/
def indentedCode (margin : Margin) (c : Cursor) (blank : Bool) (held : List Char)
    (stop : List Char) : Bool × LineBlock :=
  let after := afterFeed c.rest
  let line := codeLine c
  let pieces := if blank then [] else held ++ line
  let held := if blank then held ++ line else []
  let stop := if blank then stop else after
  let ended := (blank, { lines := pieces, stop := stop, rest := after })
  match (margin.start? after).bind (·.indented? codeIndent) with
  | none => ended
  | some next =>
    if next.rest.isEmpty then ended
    else if _h : next.rest.length < c.rest.length then
      let (blank, block) := indentedCode margin next (isBlankLine next.rest) held stop
      (blank, block.prependLines pieces)
    else ended
termination_by c.rest.length

/-- HTML that ends with the line that holds a mark. -/
def markedHtml (margin : Margin) (mark text : List Char) : LineBlock :=
  let after := afterFeed text
  match margin.start? after with
  | none => { stop := after, rest := after }
  | some next =>
    if Text.occursIn mark (feedLine text) then { stop := after, rest := after }
    else if next.rest.isEmpty then { stop := next.rest, rest := after }
    else if _h : next.rest.length < text.length then markedHtml margin mark next.rest
    else { stop := after, rest := after }
termination_by text.length

/-- HTML that ends before a blank line. -/
def openHtml (margin : Margin) (text : List Char) : LineBlock :=
  let after := afterFeed text
  match margin.start? after with
  | none => { stop := after, rest := after }
  | some next =>
    if next.atLineEnd then { stop := after, rest := after }
    else if isBlankLine next.rest then { stop := next.rest, rest := after }
    else if _h : next.rest.length < text.length then openHtml margin next.rest
    else { stop := after, rest := after }
termination_by text.length

end Folio.Markdown

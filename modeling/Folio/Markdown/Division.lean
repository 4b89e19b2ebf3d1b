import Folio.Markdown.Code
import Folio.Markdown.Outline
import Folio.Markdown.Paragraph
/-!
# Dividing a text into blocks

One block at a time is read from the beginning of a line. The line first says which open containers it
is in; the others are closed. Markers that follow open new containers. What then stands on the line
decides what kind of block it is, and the block takes as many lines as belong to it.

Each step leaves a shorter text, so the division ends.
-/

namespace Folio.Markdown

/-- Where a line goes on after the markers of containers: with a block, with a paragraph that a task
marker begins, or not at all. -/
inductive LineRest where
  | block (line : List Char) (c : Cursor)
  | taskParagraph (checked : Bool) (text : List Char)
  | done (rest : List Char)

namespace Outline

/-- After the marker of an item, whose content begins at the cursor. The item is empty if the line is
blank. `none` if the line goes on. -/
def itemContent? (gfm : Bool) (o : Outline) (c : Cursor) : Option (Outline × LineRest) :=
  match blankLine? c.rest with
  | some after => some ({ o with emptyItem := some (o.offset after) }, .done after)
  | none =>
    match if gfm then taskMarker? c else none with
    | none => none
    | some (checked, next) =>
      match blankLine? next.rest with
      | some after =>
        let o := o.add (.task ⟨o.offset c.rest, o.offset next.rest⟩ checked)
        some ({ o with emptyItem := some (o.offset after) }, .done after)
      | none => some (o, .taskParagraph checked (skipBlanks next.rest))

/-- Opens the containers whose markers stand where a line goes on. -/
def openContainers (gfm : Bool) (o : Outline) (line : List Char) (c : Cursor) :
    Outline × LineRest :=
  let (indent, inner) := c.countColumns codeIndent
  let here := (o, LineRest.block line c)
  if codeIndent ≤ indent then here
  else
    match if gfm then footnoteStart? inner.rest else none with
    | some (label, after) =>
      let text := skipBlanks after
      if _h : text.length < c.rest.length then
        openContainers gfm (o.openFootnote label (o.offset inner.rest)) text ⟨text, 0, 0⟩
      else here
    | none =>
      match itemStart? inner with
      | some (marker, width, next) =>
        let start := o.offset c.rest
        let o := (o.continueList marker.mark marker.number start).push (.item (indent + width)) start
        match itemContent? gfm o next with
        | some done => done
        | none =>
          if _h : next.rest.length < c.rest.length then openContainers gfm o line next else here
      | none =>
        match inner.quoteMark? with
        | some next =>
          let o := (o.finishList (o.offset line)).push .quote (o.offset inner.rest)
          if _h : next.rest.length < c.rest.length then openContainers gfm o line next else here
        | none => here
termination_by c.rest.length

/-- The extent from one rest of the text to another. -/
def span (o : Outline) (start stop : List Char) : Span :=
  ⟨o.offset start, o.offset stop⟩

/-- A paragraph, or the heading or table that its lines turn it into. -/
def readParagraph (gfm : Bool) (o : Outline) (task : Option Bool) (text : List Char) :
    Outline × List Char :=
  let margin := o.margin
  match if gfm then tableStart? margin text else none with
  | some body =>
    let rest := tableEnd gfm margin body
    (o.add (.table (o.span text rest)), rest)
  | none =>
    let ending := paragraphEnd gfm margin (afterLine text)
    let prose : Prose := ⟨consumed text ending.stop, margin⟩
    match ending.level with
    | some level => (o.add (.heading level (o.span text ending.rest) task prose), ending.rest)
    | none => (o.add (.paragraph (o.span text ending.rest) task prose), ending.rest)

/-- The text of a heading's line: marks at its end are dropped where a space or nothing precedes them. -/
def headingText (text : List Char) : List Char :=
  let trimmed := (text.reverse.dropWhile fun c => c = ' ' || isLineEnd c)
  match trimmed.dropWhile (· = '#') with
  | [] => []
  | last :: before =>
    if last = ' ' then (before.dropWhile (· = ' ')).reverse else trimmed.reverse

def readHeading (o : Outline) (text : List Char) (level : Nat) (afterMark : List Char) :
    Outline × List Char :=
  let content := skipBlanks afterMark
  let rest := afterLine content
  let prose : Prose := ⟨headingText (consumed content rest), []⟩
  (o.add (.heading level (o.span text rest) none prose), rest)

def readIndentedCode (o : Outline) (c : Cursor) : Outline × List Char :=
  let (blank, block) := indentedCode o.margin c false [] c.rest
  ({ o.add (.code (o.span c.rest block.stop) block.lines) with lastBlank := blank }, block.rest)

def readFencedCode (o : Outline) (fence : Fence) (indent : Nat) (text : List Char) :
    Outline × List Char :=
  let block := fencedCode o.margin fence indent (afterFeed text)
  (o.add (.code (o.span text block.stop) block.lines), block.rest)

def addHtml (o : Outline) (text : List Char) (block : LineBlock) : Outline × List Char :=
  (o.add (.html (o.span text block.stop)), block.rest)

/-- A block of HTML, if a text starts one. -/
def readHtml? (o : Outline) (text : List Char) : Option (Outline × List Char) :=
  match text with
  | '<' :: inner =>
    match Html.endMark? inner with
    | some mark => some (o.addHtml text (markedHtml o.margin mark text))
    | none =>
      if Html.startsBlockTag inner || Html.isLoneTag text then
        some (o.addHtml text (openHtml o.margin text))
      else none
  | _ => none

/-- The definition of a link, if a text starts one. -/
def readDefinition? (gfm : Bool) (o : Outline) (text : List Char) :
    Option (Outline × List Char) :=
  let margin := o.margin
  let within : NextLine := fun line => (margin.start? line).map (·.rest)
  (definition? within (definitionLine gfm margin) text).map fun (definition, rest) =>
    (o.addDefinition definition, rest)

/-- The block that starts where a line goes on; the line is not blank. -/
def readLeaf (gfm : Bool) (o : Outline) (line : List Char) (c : Cursor) : Outline × List Char :=
  let o := o.finishList (o.offset line)
  let (indent, inner) := c.countColumns codeIndent
  let text := inner.rest
  if indent = codeIndent then o.readIndentedCode inner
  else
    match o.readHtml? text with
    | some done => done
    | none =>
      match thematicBreak? text with
      | some rest => (o.add (.rule (o.span text rest)), rest)
      | none =>
        match headingMark? text with
        | some (level, afterMark) => o.readHeading text level afterMark
        | none =>
          match o.readDefinition? gfm text with
          | some done => done
          | none =>
            match fence? text with
            | some fence => o.readFencedCode fence indent text
            | none => o.readParagraph gfm none text

/-- One block from the beginning of a line, and the text after it. -/
def readBlock (gfm : Bool) (o : Outline) (text : List Char) : Outline × List Char :=
  let (depth, c) := o.margin.reach ⟨text, 0, 0⟩
  let o := o.popTo depth (o.offset text)
  match o.openContainers gfm text c with
  | (o, .done rest) => (o, rest)
  | (o, .taskParagraph checked rest) => o.readParagraph gfm (some checked) rest
  | (o, .block line c) =>
    match blankLine? c.rest with
    | some rest => (o.noteBlankLine, rest)
    | none => o.readLeaf gfm line c

def readBlocks (gfm : Bool) (o : Outline) (text : List Char) : Outline :=
  if text.isEmpty then o.popTo 0 (o.offset [])
  else
    let (next, rest) := o.readBlock gfm text
    if _h : rest.length < text.length then readBlocks gfm next rest else next.popTo 0 (o.offset [])
termination_by text.length

end Outline

/-- The elements of a text in order, and its definitions. -/
def divide (gfm : Bool) (text : List Char) : List Element × References :=
  let o := Outline.readBlocks gfm { size := Text.byteLength text } text
  (o.finished.reverse, o.references)

end Folio.Markdown

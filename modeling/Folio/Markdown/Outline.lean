import Folio.Event
import Folio.Markdown.Margin
import Folio.Markdown.Reference
import Folio.Text.Bytes
/-!
# Outlines

A text is read in two passes. The first divides it into blocks and collects the definitions of links
and footnotes, which may stand anywhere; its result is an outline, whose paragraphs and headings still
hold their source as prose. The second reads the prose.

An outline is built from the outside in. What can still grow is kept as a stack of open containers,
each with the blocks it has so far; a block is added to the innermost. Blank lines are remembered
until the next block shows whether they lie inside a list, which they make loose.
-/

namespace Folio.Markdown

/-- Source that is read for its inline content, and the margin that its later lines have. -/
structure Prose where
  source : List Char
  margin : Margin := []

inductive Element where
  | container (kind : Container) (span : Span) (children : List Element)
  | paragraph (span : Span) (task : Option Bool) (prose : Prose)
  | heading (level : Nat) (span : Span) (task : Option Bool) (prose : Prose)
  | code (span : Span) (text : List Char)
  | rule (span : Span)
  | html (span : Span)
  | table (span : Span)
  | task (span : Span) (checked : Bool)

/-- A container that may still grow, with its blocks, the last one first. -/
structure OpenContainer where
  kind : Container
  start : Nat
  children : List Element := []

/-- The elements read so far. Open containers have the innermost first, finished blocks the last. An item
whose first line is blank is `emptyItem`, where its content would begin, until its next line. -/
structure Outline where
  size : Nat
  finished : List Element := []
  opened : List OpenContainer := []
  lastBlank : Bool := false
  emptyItem : Option Nat := none
  references : References := {}

namespace Outline

/-- The offset at which a rest of the text begins. -/
def offset (o : Outline) (rest : List Char) : Nat :=
  o.size - Text.byteLength rest

def margin (o : Outline) : Margin :=
  o.opened.reverse.map (·.kind)

def add (o : Outline) (element : Element) : Outline :=
  match o.opened with
  | [] => { o with finished := element :: o.finished }
  | top :: outer => { o with opened := { top with children := element :: top.children } :: outer }

def push (o : Outline) (kind : Container) (start : Nat) : Outline :=
  { o with opened := ⟨kind, start, []⟩ :: o.opened }

/-- Closes the innermost container. -/
def pop (o : Outline) (stop : Nat) : Outline :=
  match o.opened with
  | [] => o
  | top :: outer =>
    let o := { o with opened := outer }.add (.container top.kind ⟨top.start, stop⟩ top.children.reverse)
    match top.kind with
    | .list _ _ true => { o with emptyItem := none }
    | _ => o

/-- Closes the innermost containers until `depth` are left. -/
def popTo (o : Outline) (depth stop : Nat) : Outline :=
  Nat.repeat (fun o => o.pop stop) (o.opened.length - depth) o

/-! ### Lists

A list ends where a block follows that is not one of its items. An item whose first line is blank stays
empty if a second blank line follows. -/

/-- Closes the item that two blank lines have left empty. -/
def finishEmptyItem (o : Outline) : Outline :=
  let o' :=
    match o.emptyItem, o.lastBlank, o.opened with
    | some stop, true, ⟨.item _, _, _⟩ :: _ => o.pop stop
    | _, _, _ => o
  { o' with emptyItem := none }

/-- Marks the list around the innermost container as loose. -/
def loosenAround (o : Outline) : Outline :=
  match o.opened with
  | top :: outer@⟨.list mark number _, _, _⟩ :: rest =>
    { o with opened := top :: { outer with kind := .list mark number false } :: rest }
  | _ => o

/-- Closes the list that is innermost, before a block that is not in it. -/
def finishList (o : Outline) (stop : Nat) : Outline :=
  let o := o.finishEmptyItem
  let o :=
    match o.opened with
    | ⟨.list _ _ _, _, _⟩ :: _ => o.pop stop
    | _ => o
  if o.lastBlank then { o.loosenAround with lastBlank := false } else o

/-- Goes on with the innermost list if its items have the mark, and begins a list otherwise. -/
def continueList (o : Outline) (mark : Char) (number start : Nat) : Outline :=
  let o := o.finishEmptyItem
  let begin (o : Outline) := { o.push (.list mark number true) start with lastBlank := false }
  match o.opened with
  | top@⟨.list mark' number' _, _, _⟩ :: outer =>
    if mark' = mark then
      if o.lastBlank then
        { o with
          opened := { top with kind := .list mark' number' false } :: outer
          lastBlank := false }
      else o
    else begin (o.finishList start)
  | _ :: _ => begin (o.finishList start)
  | [] => begin o

/-- A blank line. It says nothing in a quote; in an item that is still empty, it ends the item's
content. -/
def noteBlankLine (o : Outline) : Outline :=
  match o.opened, o.emptyItem with
  | ⟨.quote, _, _⟩ :: _, _ => o
  | top@⟨.item _, _, _⟩ :: outer, some _ =>
    { o with opened := { top with kind := .item 0 } :: outer, lastBlank := true }
  | _, _ => { o with lastBlank := true }

def addDefinition (o : Outline) (definition : Definition) : Outline :=
  let references := o.references
  { o with references := { references with
      definitions := references.definitions ++ [definition] } }

/-- Begins a footnote, which ends the footnote before. -/
def openFootnote (o : Outline) (label : List Char) (start : Nat) : Outline :=
  let o := o.finishList start
  let o :=
    match o.opened with
    | ⟨.footnote, _, _⟩ :: _ => o.pop start
    | _ => o
  let references := o.references
  let o := { o with references := { references with
      footnotes := references.footnotes ++ [Text.foldCase label] } }
  o.push .footnote start

end Outline

end Folio.Markdown

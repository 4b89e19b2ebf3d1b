import Folio.Block
import Folio.Dialect
import Folio.Event
import Folio.Text.Blank
import Folio.Text.Bytes
/-!
# Folding events into blocks

One event at a time updates a state of the blocks emitted so far, the elements still open, the
containers among them and the inline content collected for the innermost element.

Three rules give the machine its shape. Inside a list or a quote nothing is emitted: a nested block
becomes inline content of the innermost container, set apart from what is there by a line break. A
table, an HTML block or a footnote definition is passed through as the slice of the source that it
covers; what happens inside it is only counted, to find its end. And a blank line is noticed when a
block starts, from the source between it and the end of the block before.

A step fails only if a slice that it needs is no slice of the source.
-/

namespace Folio.Folding

/-- The kinds of inline element with content of their own. -/
inductive SpanKind where
  | strong
  | emphasis
  | strikethrough
  | link (href : String)
  | image
  | other
deriving DecidableEq, Repr

/-- An element whose start has been seen and not its end. A `raw` element remembers where it started,
an inline element the content collected before it. -/
inductive Frame where
  | paragraph
  | heading (depth : Nat)
  | code
  | list
  | item
  | quote
  | raw (start : Nat)
  | span (kind : SpanKind) (before : List Inline)

/-- A list or a quote that is being filled. -/
inductive Container where
  | list (ordered : Bool) (items : List (List Inline)) (current : List Inline)
  | quote (content : List Inline)

/-- Frames and containers have the innermost first. -/
structure State where
  blocks : List Block := []
  frames : List Frame := []
  containers : List Container := []
  pending : List Inline := []
  code : String := ""
  rawDepth : Nat := 0
  lastEnd : Option Nat := none

/-- Adds text at the end; a text there takes it in. -/
def pushText : List Inline → String → List Inline
  | [], text => [.text text]
  | [.text last], text => [.text (last ++ text)]
  | token :: rest, text => token :: pushText rest text

/-- Joins two pieces of content by a line break, which stands only between two that are not empty. -/
def joinWithBreak : List Inline → List Inline → List Inline
  | target, [] => target
  | [], content => content
  | target, content => target ++ .lineBreak :: content

def closeSpan (kind : SpanKind) (children : List Inline) : Inline :=
  match kind with
  | .strong => .strong children
  | .emphasis => .emphasis children
  | .strikethrough => .strikethrough children
  | .link href => .link (Inline.plainTextAll children) href
  | .image =>
    let alt := Inline.plainTextAll children
    .unrecognized (if alt = "" then none else some alt) none
  | .other => .unrecognized none (some children)

/-- Whether a blank line lies before a block at `start`: the source from the last visible character of
what came before has two line ends. -/
def blankBefore? (source : List Char) (lastEnd : Option Nat) (start : Nat) : Option Bool :=
  match lastEnd with
  | none => some false
  | some stop => do
    let before ← Text.slice? source 0 (min stop start)
    let gap ← Text.slice? source (Text.byteLength (Text.trimEnd before)) start
    some (2 ≤ gap.count '\n')

namespace State

def emit (s : State) (block : Block) : State :=
  { s with blocks := s.blocks ++ [block] }

/-- Adds content to the innermost container. -/
def appendNested (s : State) (content : List Inline) : State :=
  match s.containers with
  | .list ordered items current :: outer =>
    { s with containers := .list ordered items (joinWithBreak current content) :: outer }
  | .quote buffer :: outer => { s with containers := .quote (joinWithBreak buffer content) :: outer }
  | [] => s

/-- A tight item carries text without a paragraph; it moves into the item before a nested block. -/
def flush (s : State) : State :=
  if s.pending.isEmpty || s.containers.isEmpty then s
  else { s with pending := [] }.appendNested s.pending

def noteBlockStart? (s : State) (source : List Char) (start : Nat) : Option State := do
  let blank ← blankBefore? source s.lastEnd start
  some (if blank then s.emit .blank else s)

def openSpan (s : State) (kind : SpanKind) : State :=
  { s with pending := [], frames := .span kind s.pending :: s.frames }

def openBlock (s : State) (frame : Frame) : State :=
  let s := s.flush
  { s with frames := frame :: s.frames }

def openRaw (s : State) (start : Nat) : State :=
  let s := s.flush
  { s with rawDepth := 1, frames := .raw start :: s.frames }

def openContainer (s : State) (frame : Frame) (container : Container) : State :=
  let s := s.flush
  { s with frames := frame :: s.frames, containers := container :: s.containers }

def openElement (s : State) (tag : Tag) (start : Nat) : State :=
  match tag with
  | .paragraph => s.openBlock .paragraph
  | .heading level => s.openBlock (.heading level)
  | .codeBlock => { s.openBlock .code with code := "" }
  | .list number => s.openContainer .list (.list number.isSome [] [])
  | .item => { s with frames := .item :: s.frames }
  | .quote => s.openContainer .quote (.quote [])
  | .htmlBlock | .table | .footnoteDefinition => s.openRaw start
  | .strong => s.openSpan .strong
  | .emphasis => s.openSpan .emphasis
  | .strikethrough => s.openSpan .strikethrough
  | .link href => s.openSpan (.link href)
  | .image _ => s.openSpan .image
  | .definitionList | .tableHead | .tableRow | .tableCell | .superscript | .subscript
  | .metadata => s.openSpan .other

def start? (s : State) (source : List Char) (tag : Tag) (start : Nat) : Option State := do
  let s ← if s.frames.isEmpty then s.noteBlockStart? source start else some s
  some (s.openElement tag start)

/-- Places content that a top-level block may leave empty. -/
def placeContent (s : State) (content : List Inline) (block : List Inline → Block) : State :=
  if !s.containers.isEmpty then s.appendNested content
  else if content.isEmpty then s
  else s.emit (block content)

/-- The text of a code block ends before its last line end. -/
def codeText (code : String) : String :=
  match code.toList.getLast? with
  | some '\n' => String.ofList code.toList.dropLast
  | _ => code

def closeItem (s : State) : State :=
  match s.containers with
  | .list ordered items current :: outer =>
    { s with
      pending := []
      containers := .list ordered (items ++ [joinWithBreak current s.pending]) [] :: outer }
  | _ => { s with pending := [] }

def closeList (s : State) : State :=
  match s.containers with
  | .list ordered items _ :: outer =>
    let s := { s with containers := outer }
    if outer.isEmpty then s.emit (.list ordered items)
    else items.foldl appendNested s
  | _ :: outer => { s with containers := outer }
  | [] => s

def closeQuote (s : State) : State :=
  match s.containers with
  | .quote content :: outer => { s with containers := outer }.placeContent content .quote
  | _ :: outer => { s with containers := outer }
  | [] => s

def closeRaw? (s : State) (source : List Char) (start stop : Nat) : Option State := do
  let raw ← Text.slice? source start (max start stop)
  if s.containers.isEmpty then some (s.emit (.unrecognized (String.ofList raw)))
  else some (s.appendNested [.unrecognized (some (String.ofList (Text.trim raw))) none])

def close? (s : State) (source : List Char) (frame : Frame) (stop : Nat) : Option State :=
  match frame with
  | .paragraph => some ({ s with pending := [] }.placeContent s.pending .paragraph)
  | .heading depth =>
    let cleared := { s with pending := [] }
    if s.containers.isEmpty then some (cleared.emit (.heading depth s.pending))
    else some (cleared.appendNested [.strong s.pending])
  | .code =>
    let cleared := { s with code := "" }
    if s.containers.isEmpty then some (cleared.emit (.code (codeText s.code)))
    else some (cleared.appendNested [.code (codeText s.code)])
  | .item => some s.closeItem
  | .list => some s.closeList
  | .quote => some s.closeQuote
  | .raw start => s.closeRaw? source start stop
  | .span kind before => some { s with pending := before ++ [closeSpan kind s.pending] }

def stop? (s : State) (source : List Char) (stop : Nat) : Option State :=
  if 1 < s.rawDepth then some { s with rawDepth := s.rawDepth - 1 }
  else
    match s.frames with
    | [] => some { s with rawDepth := 0 }
    | frame :: frames => do
      let s ← { s with rawDepth := 0, frames := frames }.close? source frame stop
      some (if frames.isEmpty then { s with lastEnd := some stop } else s)

def atCode (s : State) : Bool :=
  match s.frames with
  | .code :: _ => true
  | _ => false

def addText (s : State) (text : String) : State :=
  if s.atCode then { s with code := s.code ++ text }
  else { s with pending := pushText s.pending text }

def addInline (s : State) (token : Inline) : State :=
  { s with pending := s.pending ++ [token] }

/-- One event. Rules inside a list or a quote have no inline form and are passed over. -/
def step? (s : State) (source : List Char) (breaks : Bool) (e : Located) : Option State :=
  if 0 < s.rawDepth then
    match e.event with
    | .start _ => some { s with rawDepth := s.rawDepth + 1 }
    | .stop => s.stop? source e.span.stop
    | _ => some s
  else
    match e.event with
    | .start tag => s.start? source tag e.span.start
    | .stop => s.stop? source e.span.stop
    | .text text => some (s.addText text)
    | .code text => some (s.addInline (.code text))
    | .html text | .inlineHtml text => some (s.addInline (.unrecognized (some text) none))
    | .footnoteReference label =>
      some (s.addInline (.unrecognized (some ("[^" ++ label ++ "]")) none))
    | .softBreak =>
      some (if breaks then s.addInline .lineBreak else { s with pending := pushText s.pending " " })
    | .hardBreak => some (s.addInline .lineBreak)
    | .taskMarker checked =>
      some { s with pending := pushText s.pending (if checked then "[x] " else "[ ] ") }
    | .rule =>
      if s.frames.isEmpty then do
        let s ← s.noteBlockStart? source e.span.start
        some { s.emit .rule with lastEnd := some e.span.stop }
      else some s
    | .math _ => some s

end State

/-- Folds a stream from a state. -/
def run? (source : List Char) (breaks : Bool) : State → List Located → Option State
  | s, [] => some s
  | s, e :: rest => do
    let next ← s.step? source breaks e
    run? source breaks next rest

end Folio.Folding

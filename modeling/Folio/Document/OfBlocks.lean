import Folio.Block
import Folio.Document
import Folio.Log
import Folio.Text.Blank
import Folio.Text.Bytes
/-!
# From blocks to documents

Each block becomes at most one node. A blank becomes none, and neither does a block without a token
of its own when its text is blank. Otherwise the policy decides about such a block: it is dropped with
a warning, or its trimmed source is set as a paragraph.
-/

namespace Folio

/-- What happens to a block that has no layout. -/
inductive UnrecognizedPolicy where
  | drop
  | passthrough
deriving DecidableEq, Repr

namespace UnrecognizedPolicy

def label : UnrecognizedPolicy → String
  | drop => "drop"
  | passthrough => "passthrough"

def ofLabel? (label : String) : Option UnrecognizedPolicy :=
  [drop, passthrough].find? fun policy => policy.label = label

end UnrecognizedPolicy

def paragraphMargin : Margin := ⟨0, 0, 0, 10⟩

def codeMargin : Margin := ⟨0, 5, 0, 10⟩

def quoteMargin : Margin := ⟨10, 5, 0, 5⟩

def ruleMargin : Margin := ⟨0, 10, 0, 10⟩

/-- The margin around every list item. -/
def listItemMargin : Margin := ⟨0, 2, 0, 2⟩

def ruleLine : Line := ⟨0, 5, 515, 5⟩

def ruleLineWidth : Float := 0.5

def ruleColor : String := "#cccccc"

def headingMargin (depth : Nat) : Margin :=
  match depth with
  | 0 | 1 => ⟨0, 5, 0, 10⟩
  | 2 => ⟨0, 5, 0, 8⟩
  | _ => ⟨0, 5, 0, 5⟩

def listMargin (ordered : Bool) : Margin :=
  ⟨if ordered then 10 else 5, 5, 0, 10⟩

/-- What becomes of a block: a node, a warning, or nothing. -/
inductive Placement where
  | node (node : Node)
  | dropped (text : List Char)
  | nothing

def previewLength : Nat := 40

/-- A text of more than forty characters is cut to its first forty and three dots. -/
def preview (text : List Char) : List Char :=
  if previewLength < text.length then text.take previewLength ++ ['.', '.', '.'] else text

def placeUnrecognized (policy : UnrecognizedPolicy) (raw : String) : Placement :=
  let content := Text.trim raw.toList
  if content.isEmpty then .nothing
  else match policy with
    | .drop => .dropped content
    | .passthrough =>
      .node (.textBlock [Run.plain (String.ofList content)] .body paragraphMargin)

def Block.place (policy : UnrecognizedPolicy) : Block → Placement
  | .heading depth content =>
    .node (.textBlock (Run.ofInline content) (.ofDepth depth) (headingMargin depth))
  | .paragraph content => .node (.textBlock (Run.ofInline content) .body paragraphMargin)
  | .code text => .node (.textBlock [Run.styled text .code] .code codeMargin)
  | .list ordered items =>
    .node (.listBlock ordered (items.map Run.ofInline) (listMargin ordered))
  | .quote content => .node (.textBlock (Run.ofInline content) .blockquote quoteMargin)
  | .rule => .node (.ruleBlock ruleLine ruleLineWidth ruleColor ruleMargin)
  | .blank => .nothing
  | .unrecognized raw => placeUnrecognized policy raw

def Placement.node? : Placement → Option Node
  | node n => some n
  | _ => none

def Placement.warning? : Placement → Option LogEntry
  | dropped text => some (.droppedBlock (Text.byteLength text) (String.ofList (preview text)))
  | _ => none

/-- The nodes of a list of blocks, and what is logged: a warning for each block dropped, then the two
counts. -/
def Node.ofBlocks (policy : UnrecognizedPolicy) (blocks : List Block) :
    List Node × List LogEntry :=
  let placements := blocks.map (Block.place policy)
  let nodes := placements.filterMap Placement.node?
  (nodes, placements.filterMap Placement.warning? ++ [.transformed blocks.length nodes.length])

def Document.ofBlocks (policy : UnrecognizedPolicy) (blocks : List Block) :
    Document × List LogEntry :=
  let (content, log) := Node.ofBlocks policy blocks
  ({ content }, log)

end Folio

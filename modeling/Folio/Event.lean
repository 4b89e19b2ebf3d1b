/-!
# Reading events

A reader of markdown reports what it finds as a stream of events. An element is opened by a start
event with its tag and closed by a stop event; between the two stand the events of its content. Each
event carries the range of the source that it covers, in bytes.

Streams need not be balanced: a stop event closes the innermost open element, whatever its tag.
-/

namespace Folio

inductive Tag where
  | paragraph
  | heading (level : Nat)
  | quote
  | codeBlock
  | htmlBlock
  | list (start : Option Nat)
  | item
  | footnoteDefinition
  | definitionList
  | table
  | tableHead
  | tableRow
  | tableCell
  | emphasis
  | strong
  | strikethrough
  | superscript
  | subscript
  | metadata
  | link (href : String)
  | image (href : String)
deriving DecidableEq, Repr

inductive Event where
  | start (tag : Tag)
  | stop
  | text (text : String)
  | code (text : String)
  | math (text : String)
  | html (text : String)
  | inlineHtml (text : String)
  | footnoteReference (label : String)
  | softBreak
  | hardBreak
  | rule
  | taskMarker (checked : Bool)
deriving DecidableEq, Repr

/-- Bytes from `start` up to `stop`. -/
structure Span where
  start : Nat
  stop : Nat
deriving DecidableEq, Repr

structure Located where
  event : Event
  span : Span
deriving DecidableEq, Repr

end Folio

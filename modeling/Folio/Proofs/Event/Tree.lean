import Folio.Block.Folding
import Folio.Proofs.Text.Boundary
/-!
# Event trees

A stream of events that a reader produces is the written-out form of a tree. A passage is a rule or an
element with a body; lists and quotes have passages below them, and an item may also hold inline
phrases of its own, as a tight list has no paragraphs. What a raw element encloses is any stream in
which starts and stops balance.

`Passage.writeAll` writes a list of passages as a stream. Every event has a range of its own, about which
only this is asked where it matters: its two ends are boundaries of the source.
-/

namespace Folio

/-- The kind of inline element that a tag opens; blocks open none. -/
def Tag.spanKind? : Tag → Option Folding.SpanKind
  | .strong => some .strong
  | .emphasis => some .emphasis
  | .strikethrough => some .strikethrough
  | .link href => some (.link href)
  | .image _ => some .image
  | .definitionList | .tableHead | .tableRow | .tableCell | .superscript | .subscript
  | .metadata => some .other
  | .paragraph | .heading _ | .quote | .codeBlock | .htmlBlock | .list _ | .item
  | .footnoteDefinition | .table => none

/-- The tags of the elements that are passed through as source. -/
def Tag.isRaw : Tag → Bool
  | .htmlBlock | .table | .footnoteDefinition => true
  | _ => false

/-- How deep a stream ends that starts `depth` deep; `none` if it closes more than was open. -/
def nestingAfter? : Nat → List Located → Option Nat
  | depth, [] => some depth
  | depth, e :: rest =>
    match e.event, depth with
    | .start _, depth => nestingAfter? (depth + 1) rest
    | .stop, 0 => none
    | .stop, depth + 1 => nestingAfter? depth rest
    | _, depth => nestingAfter? depth rest

namespace Tree

/-- An inline event that stands for itself. -/
inductive Leaf where
  | text (text : String)
  | code (text : String)
  | html (text : String)
  | footnoteReference (label : String)
  | softBreak
  | hardBreak
  | taskMarker (checked : Bool)
deriving DecidableEq, Repr

def Leaf.event : Leaf → Event
  | text literal => .text literal
  | code literal => .code literal
  | html literal => .inlineHtml literal
  | footnoteReference label => .footnoteReference label
  | softBreak => .softBreak
  | hardBreak => .hardBreak
  | taskMarker checked => .taskMarker checked

/-- A tag of an inline element, with the kind of element that it opens. -/
structure SpanTag where
  tag : Tag
  kind : Folding.SpanKind
  opens : tag.spanKind? = some kind

inductive Phrase where
  | leaf (event : Leaf) (span : Span)
  | element (tag : SpanTag) (opening closing : Span) (children : List Phrase)

/-- A tag of an element that is passed through. -/
structure RawTag where
  tag : Tag
  raw : tag.isRaw = true

theorem RawTag.tag_cases (tag : RawTag) :
    tag.tag = .htmlBlock ∨ tag.tag = .table ∨ tag.tag = .footnoteDefinition := by
  obtain ⟨tag, hraw⟩ := tag
  cases tag <;> simp [Tag.isRaw] at hraw ⊢

/-- A stream that closes what it opens and nothing else. -/
structure Balanced where
  events : List Located
  closed : nestingAfter? 0 events = some 0

mutual

inductive Passage where
  | rule (span : Span)
  | element (opening closing : Span) (body : Body)

inductive Body where
  | paragraph (content : List Phrase)
  | heading (level : Nat) (content : List Phrase)
  | code (lines : List (String × Span))
  | list (number : Option Nat) (items : List Item)
  | quote (passages : List Passage)
  | raw (tag : RawTag) (inside : Balanced)

inductive Item where
  | item (opening closing : Span) (parts : List Part)

inductive Part where
  | phrase (phrase : Phrase)
  | passage (passage : Passage)

end

def Item.parts : Item → List Part
  | .item _ _ parts => parts

def Passage.isRule : Passage → Bool
  | .rule _ => true
  | .element .. => false

/-- Where a passage starts: at its first event. -/
def Passage.start : Passage → Nat
  | .rule span => span.start
  | .element opening _ _ => opening.start

/-- Where a passage stops: at its last event. -/
def Passage.stop : Passage → Nat
  | .rule span => span.stop
  | .element _ closing _ => closing.stop

def Body.tag : Body → Tag
  | .paragraph _ => .paragraph
  | .heading level _ => .heading level
  | .code _ => .codeBlock
  | .list number _ => .list number
  | .quote _ => .quote
  | .raw tag _ => tag.tag

/-- A tag that opens a block is no tag of an item or of an inline element. -/
theorem Body.tag_spanKind? (body : Body) : body.tag.spanKind? = none ∧ body.tag ≠ .item := by
  cases body with
  | raw tag inside =>
    rw [Body.tag]
    rcases tag.tag_cases with h | h | h <;> rw [h] <;> exact ⟨rfl, by simp⟩
  | _ => exact ⟨rfl, by simp [Body.tag]⟩

/-- An element written out: its start, what is inside, its stop. -/
def enclose (tag : Tag) (opening closing : Span) (inside : List Located) : List Located :=
  ⟨.start tag, opening⟩ :: (inside ++ [⟨.stop, closing⟩])

mutual

def Phrase.write : Phrase → List Located
  | .leaf event span => [⟨event.event, span⟩]
  | .element tag opening closing children =>
    enclose tag.tag opening closing (Phrase.writeAll children)

def Phrase.writeAll : List Phrase → List Located
  | [] => []
  | phrase :: rest => phrase.write ++ Phrase.writeAll rest

end

/-- The lines of a code block, a text event each. -/
def writeLines (lines : List (String × Span)) : List Located :=
  lines.map fun line => ⟨.text line.1, line.2⟩

mutual

def Passage.write : Passage → List Located
  | .rule span => [⟨.rule, span⟩]
  | .element opening closing body => enclose body.tag opening closing body.write

def Body.write : Body → List Located
  | .paragraph content => Phrase.writeAll content
  | .heading _ content => Phrase.writeAll content
  | .code lines => writeLines lines
  | .list _ items => Item.writeAll items
  | .quote passages => Passage.writeAll passages
  | .raw _ inside => inside.events

def Passage.writeAll : List Passage → List Located
  | [] => []
  | passage :: rest => passage.write ++ Passage.writeAll rest

def Item.writeAll : List Item → List Located
  | [] => []
  | .item opening closing parts :: rest =>
    enclose .item opening closing (Part.writeAll parts) ++ Item.writeAll rest

def Part.writeAll : List Part → List Located
  | [] => []
  | .phrase phrase :: rest => phrase.write ++ Part.writeAll rest
  | .passage passage :: rest => passage.write ++ Part.writeAll rest

end

theorem Part.writeAll_append (first second : List Part) :
    Part.writeAll (first ++ second) = Part.writeAll first ++ Part.writeAll second := by
  induction first with
  | nil => rfl
  | cons part rest ih => cases part <;> simp [Part.writeAll, ih]

theorem Passage.writeAll_append (first second : List Passage) :
    Passage.writeAll (first ++ second) = Passage.writeAll first ++ Passage.writeAll second := by
  induction first with
  | nil => rfl
  | cons passage rest ih => rw [List.cons_append, Passage.writeAll, Passage.writeAll, ih, List.append_assoc]

theorem Item.writeAll_append (first second : List Item) :
    Item.writeAll (first ++ second) = Item.writeAll first ++ Item.writeAll second := by
  induction first with
  | nil => rfl
  | cons item rest ih =>
    cases item
    simp [Item.writeAll, ih]

theorem Part.writeAll_passages (passages : List Passage) :
    Part.writeAll (passages.map .passage) = Passage.writeAll passages := by
  induction passages with
  | nil => rfl
  | cons passage rest ih => rw [List.map_cons, Part.writeAll, Passage.writeAll, ih]

end Tree

/-- A range whose two ends are boundaries of the source. -/
def Span.Fits (source : List Char) (span : Span) : Prop :=
  Text.IsBoundary source span.start ∧ Text.IsBoundary source span.stop

/-- A stream in which every range fits the source. -/
def Fits (source : List Char) (events : List Located) : Prop :=
  ∀ e ∈ events, e.span.Fits source

instance {source : List Char} {span : Span} : Decidable (span.Fits source) :=
  inferInstanceAs (Decidable (_ ∧ _))

instance {source : List Char} {events : List Located} : Decidable (Fits source events) :=
  inferInstanceAs (Decidable (∀ e ∈ events, e.span.Fits source))

section Fits

variable {source : List Char} {events more : List Located}

theorem fits_append : Fits source (events ++ more) ↔ Fits source events ∧ Fits source more :=
  List.forall_mem_append

theorem fits_enclose {tag : Tag} {opening closing : Span} :
    Fits source (Tree.enclose tag opening closing events) ↔
      opening.Fits source ∧ Fits source events ∧ closing.Fits source := by
  rw [Tree.enclose, Fits, List.forall_mem_cons]
  refine and_congr Iff.rfl ?_
  rw [List.forall_mem_append, List.forall_mem_singleton]
  rfl

end Fits

end Folio

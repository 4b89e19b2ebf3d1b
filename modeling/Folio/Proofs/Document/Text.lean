import Folio.Document.OfBlocks
import Folio.Proofs.Block.TopLevel
import Folio.Proofs.Event.Said
/-!
# The text of a document

What the events of a stream say and what the runs of the document show are the same text, up to
newlines. The machine gives the blocks that the tree means; a block shows the words of the content that
its passage means; and a stream says the words of the same content.

This needs the policy that passes unknown blocks through. The other policy drops them.
-/

namespace Folio

/-- The texts of all runs, in the order of the document. -/
def Document.text (document : Document) : List Char :=
  Run.joined (document.content.flatMap Node.runs)

/-- The words that blocks show when nothing is dropped. -/
def Block.shown (blocks : List Block) : List Char :=
  withoutNewlines (Document.ofBlocks .passthrough blocks).1.text

namespace Block

open Inline

theorem shown_append (first second : List Block) :
    shown (first ++ second) = shown first ++ shown second := by
  simp only [shown, Document.text, Document.ofBlocks, Node.ofBlocks, List.map_append,
    List.filterMap_append, List.flatMap_append, Run.joined_append, withoutNewlines_append]

theorem shown_cons (block : Block) (rest : List Block) :
    shown (block :: rest) = shown [block] ++ shown rest :=
  shown_append [block] rest

/-- Blanks show nothing. -/
theorem shown_visible (blocks : List Block) : shown (visible blocks) = shown blocks := by
  induction blocks with
  | nil => rfl
  | cons block rest ih =>
    rw [visible] at ih ⊢
    cases block with
    | blank => exact ih
    | _ =>
      rw [List.filter_cons_of_pos rfl, shown_cons, ih, ← shown_cons]

theorem shown_singleton (block : Block) :
    shown [block] =
      withoutNewlines (Run.joined ((block.place .passthrough).node?.toList.flatMap Node.runs)) := by
  rw [shown, Document.ofBlocks, Node.ofBlocks, Document.text, List.map_cons, List.map_nil,
    List.filterMap_cons]
  cases (block.place .passthrough).node? <;> rfl

theorem shown_textBlock {block : Block} {tokens : List Inline} {style : StyleName} {margin : Margin}
    (hplace : block.place .passthrough = .node (.textBlock (Run.ofInline tokens) style margin)) :
    shown [block] = words tokens := by
  rw [shown_singleton, hplace, words, ← Run.joined_ofTokens tokens {}]
  exact congrArg (fun runs => withoutNewlines (Run.joined runs)) (List.append_nil _)

theorem shown_code (text : String) : shown [.code text] = withoutNewlines text.toList := by
  rw [shown_singleton]
  exact congrArg withoutNewlines (List.append_nil _)

theorem shown_list (ordered : Bool) (items : List (List Inline)) :
    shown [.list ordered items] = items.flatMap words := by
  rw [shown_singleton]
  show withoutNewlines (Run.joined ((items.map Run.ofInline).flatten ++ [])) = _
  rw [List.append_nil]
  induction items with
  | nil => rfl
  | cons item rest ih =>
    rw [List.map_cons, List.flatten_cons, Run.joined_append, withoutNewlines_append, ih,
      List.flatMap_cons, Run.ofInline, Run.joined_ofTokens, words]

/-- A block without a token of its own shows its trimmed source, also if that is empty. -/
theorem shown_unrecognized (raw : List Char) :
    shown [.unrecognized (String.ofList raw)] = withoutNewlines (Text.trim raw) := by
  rw [shown_singleton, place, placeUnrecognized, String.toList_ofList]
  rcases Text.trim raw with _ | ⟨c, rest⟩
  · rfl
  · simp [Placement.node?, Node.runs, Run.joined, Run.plain]

end Block

namespace Tree

open Inline Folding

variable {source : List Char} {breaks : Bool}

theorem shown_of_isEmpty {content : List Inline} {block : List Inline → Block}
    (hblock : ∀ tokens, Block.shown [block tokens] = words tokens) :
    Block.shown (if content.isEmpty then none else some (block content)).toList = words content := by
  cases content with
  | nil => rfl
  | cons token rest => exact hblock (token :: rest)

/-- The block of a passage shows the words of the passage's content. -/
theorem shown_block? (passage : Passage) :
    Block.shown (passage.block? source breaks).toList = words (passage.content source breaks) := by
  cases passage with
  | rule span => rfl
  | element opening closing body =>
    cases body with
    | paragraph content => exact shown_of_isEmpty fun tokens => Block.shown_textBlock rfl
    | heading level content =>
      rw [Passage.block?, Body.block?, Option.toList_some, Block.shown_textBlock rfl, Passage.content,
        Body.content, words_singleton]
      rfl
    | code lines =>
      rw [Passage.block?, Body.block?, Option.toList_some, Block.shown_code, Passage.content, Body.content,
        words_singleton, Inline.plainText]
    | list number items =>
      rw [Passage.block?, Body.block?, Option.toList_some, Block.shown_list, Passage.content, Body.content,
        words_joinPieces]
    | quote passages => exact shown_of_isEmpty fun tokens => Block.shown_textBlock rfl
    | raw tag inside =>
      rw [Passage.block?, Body.block?, Option.toList_some, Block.shown_unrecognized, Passage.content,
        Body.content, words_singleton, Inline.plainText, String.toList_ofList]

theorem shown_filterMap_block? (passages : List Passage) :
    Block.shown (passages.filterMap (Passage.block? source breaks)) =
      (Passage.contents source breaks passages).flatMap words := by
  induction passages with
  | nil => rfl
  | cons passage rest ih =>
    rw [List.filterMap_cons, Passage.contents, List.flatMap_cons, ← ih, ← shown_block?, ← Block.shown_append]
    cases passage.block? source breaks <;> rfl

end Tree

open Folio.Tree Folding in
/-- **No text is lost, repeated or moved.** The runs of the document that is built from the blocks of a
stream show, up to newlines, what the events of the stream say, in the order of the stream. -/
theorem text_document_eq_said (source : List Char) (dialect : Dialect) (passages : List Passage)
    (hfits : Fits source (Passage.writeAll passages)) :
    ∃ final, run? source dialect.breaks {} (Passage.writeAll passages) = some final ∧
      withoutNewlines (Document.ofBlocks .passthrough final.blocks).1.text =
        withoutNewlines (said source dialect.breaks none (Passage.writeAll passages)) := by
  obtain ⟨final, hrun, -, hblocks⟩ := run?_topLevel source dialect.breaks passages (s := {})
    ⟨rfl, rfl, rfl, rfl, rfl⟩ (by rintro stop ⟨⟩) hfits
  refine ⟨final, hrun, ?_⟩
  have hsaid := said_passages source dialect.breaks passages []
  have hshown : Block.shown final.blocks =
      (Passage.contents source dialect.breaks passages).flatMap Inline.words := by
    rw [← Block.shown_visible, hblocks, ← shown_filterMap_block?]
    rfl
  rw [List.append_nil, ← hshown] at hsaid
  exact (hsaid.trans (List.append_nil _)).symm

open Folio.Tree Folding in
/-- A checked item with a link in a quote, then a block of markup. -/
theorem text_document_eq_said_taskItem :
    let source := "- a\n  > b\n\n<p>x</p>\n".toList
    let link : SpanTag := ⟨.link "u", .link "u", rfl⟩
    let passages : List Passage := [
      .element ⟨0, 10⟩ ⟨0, 10⟩ (.list none [.item ⟨0, 10⟩ ⟨0, 10⟩ [
        .phrase (.leaf (.taskMarker true) ⟨2, 2⟩), .phrase (.leaf (.text "a") ⟨2, 3⟩),
        .passage (.element ⟨6, 10⟩ ⟨6, 10⟩ (.quote [.element ⟨8, 10⟩ ⟨8, 10⟩
          (.paragraph [.element link ⟨8, 9⟩ ⟨8, 9⟩ [.leaf (.text "b") ⟨8, 9⟩]])]))]]),
      .element ⟨11, 20⟩ ⟨11, 20⟩ (.raw ⟨.htmlBlock, rfl⟩ ⟨[⟨.html "<p>x</p>\n", ⟨11, 20⟩⟩], rfl⟩)]
    Fits source (Passage.writeAll passages) ∧
      ∃ final, run? source false {} (Passage.writeAll passages) = some final ∧
        withoutNewlines (Document.ofBlocks .passthrough final.blocks).1.text =
          "[x] ab<p>x</p>".toList := by
  intro source link passages
  have hfits : Fits source (Passage.writeAll passages) := by decide
  exact ⟨hfits, text_document_eq_said source {} passages hfits⟩

end Folio

import Folio.Proofs.Document.Policy
import Folio.Proofs.Document.Text
/-!
# The plain text of blocks

The text of tokens is read in two ways that know nothing of each other. What is shown comes from the runs
that tokens are resolved into. Plain text is taken from the tokens themselves, where a link or an image
closes and only the text of its children is kept. Both decide on their own what an unrecognized token
stands for and what a line break is.

They agree on every tree, to the character. So the document of a list of blocks shows the plain text of the
blocks, and a link may take the place of its children without anything being shown otherwise.
-/

namespace Folio

/-- The text of a block as its tokens have it. A block without a token of its own has its trimmed
source. -/
def Block.plainText : Block → List Char
  | .heading _ content | .paragraph content | .quote content => (Inline.plainTextAll content).toList
  | .list _ items => items.flatMap fun item => (Inline.plainTextAll item).toList
  | .code text => text.toList
  | .unrecognized raw => Text.trim raw.toList
  | .rule | .blank => []

theorem Inline.plainTextAll_append (first second : List Inline) :
    plainTextAll (first ++ second) = plainTextAll first ++ plainTextAll second := by
  induction first with
  | nil => simp [plainTextAll]
  | cons token rest ih => rw [List.cons_append, plainTextAll, plainTextAll, ih, String.append_assoc]

theorem Run.joined_ofInline (tokens : List Inline) :
    Run.joined (Run.ofInline tokens) = (Inline.plainTextAll tokens).toList :=
  Run.joined_ofTokens tokens {}

theorem Run.joined_flatten_map_ofInline (items : List (List Inline)) :
    Run.joined (items.map Run.ofInline).flatten =
      items.flatMap fun item => (Inline.plainTextAll item).toList := by
  induction items with
  | nil => rfl
  | cons item rest ih =>
    rw [List.map_cons, List.flatten_cons, Run.joined_append, Run.joined_ofInline, ih, List.flatMap_cons]

theorem Document.content_ofBlocks (policy : UnrecognizedPolicy) (blocks : List Block) :
    (Document.ofBlocks policy blocks).1.content = blocks.flatMap (Node.ofBlock policy) :=
  Node.ofBlocks_eq_flatMap

/-- The node of a block shows the block's plain text, and a block without a node has none. -/
theorem Block.joined_runs_ofBlock (block : Block) :
    Run.joined ((Node.ofBlock .passthrough block).flatMap Node.runs) = block.plainText := by
  have hone : ∀ node, block.place .passthrough = .node node →
      Run.joined ((Node.ofBlock .passthrough block).flatMap Node.runs) = Run.joined node.runs := by
    intro node hplace
    rw [Node.ofBlock_eq, hplace]
    simp [Placement.node?]
  cases block with
  | heading | paragraph | quote =>
    rw [hone _ rfl]
    apply Run.joined_ofInline
  | list ordered items =>
    rw [hone _ rfl]
    apply Run.joined_flatten_map_ofInline
  | code text =>
    rw [hone _ rfl]
    simp [Node.runs, Run.joined, Run.styled, plainText]
  | rule | blank => rfl
  | unrecognized raw =>
    by_cases hempty : Text.trim raw.toList = []
    · rw [Node.ofBlock_eq, place, placeUnrecognized, plainText, hempty]
      rfl
    · have hplace : place .passthrough (.unrecognized raw) =
          .node (.plainParagraph (String.ofList (Text.trim raw.toList))) := by
        simp [place, placeUnrecognized, hempty, Node.plainParagraph]
      rw [hone _ hplace]
      simp [Node.plainParagraph, Node.runs, Run.joined, Run.plain, plainText]

/-- Tokens in the midst of others may be closed to one token that keeps their plain text. -/
theorem Run.joined_ofTokens_congr {token : Inline} {tokens : List Inline}
    (htoken : token.plainText = Inline.plainTextAll tokens) (marks : Marks) (before after : List Inline) :
    Run.joined (Run.ofTokens marks (before ++ token :: after)) =
      Run.joined (Run.ofTokens marks (before ++ tokens ++ after)) := by
  rw [Run.joined_ofTokens, Run.joined_ofTokens]
  rw [Inline.plainTextAll_append, Inline.plainTextAll_append, Inline.plainTextAll_append]
  rw [Inline.plainTextAll, htoken, String.append_assoc]

/-- **Shown text is plain text.** Where nothing is dropped, the runs of the document that is built from
any blocks show the plain text of the blocks, newlines included. And what is shown of any tokens, among
whatever others and under whatever marks, stays the same if the tokens are replaced by a link with their
plain text, or by what any other span of them closes to. -/
theorem Document.text_ofBlocks_eq_plainText (blocks : List Block) :
    (Document.ofBlocks .passthrough blocks).1.text = blocks.flatMap Block.plainText ∧
    ∀ (kind : Folding.SpanKind) (marks : Marks) (before tokens after : List Inline),
      Run.joined (Run.ofTokens marks (before ++ Folding.closeSpan kind tokens :: after)) =
        Run.joined (Run.ofTokens marks (before ++ tokens ++ after)) := by
  constructor
  · rw [Document.text, Document.content_ofBlocks, Run.joined, List.flatMap_assoc, List.flatMap_assoc]
    apply List.flatMap_congr
    intro block _
    rw [← block.joined_runs_ofBlock, Run.joined, List.flatMap_assoc]
  · intro kind marks before tokens after
    exact Run.joined_ofTokens_congr (Inline.plainText_closeSpan kind tokens) marks before after

end Folio

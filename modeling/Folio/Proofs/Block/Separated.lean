import Folio.Proofs.Block.TopLevel
import Folio.Proofs.Event.Said
/-!
# Nested blocks are set apart

Inside a list item or a quote a nested block becomes a piece of the content, and pieces are joined by line
breaks. So the content can be cut in two behind every nested block, however deep it is nested: what the
events up to its end say is in front of a line break, and what the events after it say is behind it. No
text in front of the cut can be in one token with a text behind it.

Rules are the exception. A rule is no piece, it ends none either, and the bare text of a tight item goes on
behind it in the same token.
-/

namespace Folio

open Folding Inline

namespace Tree

variable {source : List Char} {breaks : Bool} {inner passage : Passage} {parts : List Part}
  {front back : List Located}

/-! ### Nested passages -/

/-- A passage that is nested in some parts, with the events of the parts in front of it and behind it. It
is one of the parts, or it is nested in an item of a list or in a quote among them. -/
inductive Nested (inner : Passage) : List Part → List Located → List Located → Prop
  | here (left right : List Part) :
      Nested inner (left ++ .passage inner :: right) (Part.writeAll left) (Part.writeAll right)
  | list {left right parts : List Part} {opening closing start stop : Span} {number : Option Nat}
      {before after : List Item} {front back : List Located} (hinside : Nested inner parts front back) :
      Nested inner
        (left ++ .passage
          (.element opening closing (.list number (before ++ .item start stop parts :: after))) :: right)
        (Part.writeAll left ++ ⟨.start (.list number), opening⟩ ::
          (Item.writeAll before ++ ⟨.start .item, start⟩ :: front))
        (back ++ ⟨.stop, stop⟩ :: (Item.writeAll after ++ ⟨.stop, closing⟩ :: Part.writeAll right))
  | quote {left right : List Part} {opening closing : Span} {passages : List Passage}
      {front back : List Located} (hinside : Nested inner (passages.map .passage) front back) :
      Nested inner (left ++ .passage (.element opening closing (.quote passages)) :: right)
        (Part.writeAll left ++ ⟨.start .quote, opening⟩ :: front)
        (back ++ ⟨.stop, closing⟩ :: Part.writeAll right)

/-- The events of the parts are those in front, those of the nested passage and those behind it. -/
theorem Nested.writeAll_eq (h : Nested inner parts front back) :
    Part.writeAll parts = front ++ (inner.write ++ back) := by
  induction h with
  | here left right => rw [Part.writeAll_append, Part.writeAll]
  | list _ ih =>
    rw [Part.writeAll_append, Part.writeAll, Passage.write, Body.write, Item.writeAll_append, Item.writeAll, ih]
    simp [enclose, Body.tag]
  | quote _ ih =>
    rw [Part.writeAll_append, Part.writeAll, Passage.write, Body.write, ← Part.writeAll_passages, ih]
    simp [enclose, Body.tag]

theorem tells_pieces (source : List Char) (breaks : Bool) (parts : List Part) :
    Tells source breaks (joinPieces (Part.pieces source breaks [] parts)) (Part.writeAll parts) :=
  tells_parts source breaks parts [] [] .nil

/-- Behind a nested passage the content can be cut. -/
theorem Nested.separates (h : Nested inner parts front back) (hinner : inner.isRule = false)
    (source : List Char) (breaks : Bool) :
    ∃ before after, joinPieces (Part.pieces source breaks [] parts) = joinWithBreak before after ∧
      Tells source breaks before (front ++ inner.write) ∧ Tells source breaks after back := by
  induction h with
  | here left right =>
    refine ⟨_, _, ?_, (tells_pieces source breaks left).joinWithBreak (tells_passage source breaks inner),
      tells_pieces source breaks right⟩
    rw [joinPieces_pieces_split hinner, joinWithBreak_assoc]
  | @list left right parts opening closing start stop number earlier later front back _ ih =>
    obtain ⟨before, after, hcontent, hbefore, hafter⟩ := ih
    have hlist : Tells source breaks [] [⟨.start (.list number), opening⟩] := .start rfl opening
    have hitem : Tells source breaks [] [⟨.start .item, start⟩] := .start rfl start
    have hfront := (tells_pieces source breaks left).joinWithBreak
      (hlist.append ((tells_items source breaks earlier).joinWithBreak (hitem.append hbefore)))
    have hback := hafter.joinWithBreak ((Tells.stop stop).append
      ((tells_items source breaks later).joinWithBreak
        ((Tells.stop closing).append (tells_pieces source breaks right))))
    refine ⟨_, _, ?_, by simpa using hfront, by simpa using hback⟩
    rw [joinPieces_pieces_split rfl, Passage.content, Body.content, Item.contents_append, Item.contents,
      joinPieces_append, joinPieces_cons, hcontent]
    simp only [joinWithBreak_assoc]
  | @quote left right opening closing passages front back _ ih =>
    obtain ⟨before, after, hcontent, hbefore, hafter⟩ := ih
    have hquote : Tells source breaks [] [⟨.start .quote, opening⟩] := .start rfl opening
    have hfront := (tells_pieces source breaks left).joinWithBreak (hquote.append hbefore)
    have hback :=
      hafter.joinWithBreak ((Tells.stop closing).append (tells_pieces source breaks right))
    refine ⟨_, _, ?_, by simpa using hfront, by simpa using hback⟩
    rw [joinPieces_pieces_split rfl, Passage.content, Body.content, ← joinPieces_pieces_passages, hcontent]
    simp only [joinWithBreak_assoc]

end Tree

/-! ### Outermost items and quotes -/

/-- The content of each item of a list, or of a quote as a whole. -/
def Block.sequences : Block → List (List Inline)
  | .list _ items => items
  | .quote content => [content]
  | _ => []

namespace Tree

/-- The parts of each item of a list, or of a quote as a whole. -/
def Passage.holders : Passage → List (List Part)
  | .element _ _ (.list _ items) => items.map Item.parts
  | .element _ _ (.quote passages) => [passages.map .passage]
  | _ => []

variable {source : List Char} {breaks : Bool} {inner passage : Passage} {parts : List Part}
  {front back : List Located} {i : Nat}

/-- What is not empty at the top level is a sequence of a block. -/
theorem exists_block_of_holders (hholder : passage.holders[i]? = some parts)
    (hcontent : joinPieces (Part.pieces source breaks [] parts) ≠ []) :
    ∃ block, passage.block? source breaks = some block ∧
      block.sequences[i]? = some (joinPieces (Part.pieces source breaks [] parts)) := by
  cases passage with
  | rule span => simp [Passage.holders] at hholder
  | element opening closing body =>
    cases body with
    | list number items =>
      refine ⟨_, rfl, ?_⟩
      rw [Passage.holders, List.getElem?_map, Option.map_eq_some_iff] at hholder
      obtain ⟨item, hitem, rfl⟩ := hholder
      rw [Block.sequences, Item.contents_eq_map, List.getElem?_map, hitem]
      rfl
    | quote passages =>
      obtain ⟨rfl, rfl⟩ : i = 0 ∧ passages.map .passage = parts := by
        rw [Passage.holders, List.getElem?_singleton] at hholder
        split_ifs at hholder with hi
        exact ⟨hi, Option.some.inj hholder⟩
      rw [joinPieces_pieces_passages] at hcontent ⊢
      refine ⟨.quote (joinPieces (Passage.contents source breaks passages)), ?_, rfl⟩
      rw [Passage.block?, Body.block?, if_neg]
      simpa using hcontent
    | _ => simp [Passage.holders] at hholder

/-- **Texts on both sides of the end of a nested block are kept apart.** The events of an item or a quote
at the top level are those up to the end of a nested block, which is no rule, and those behind it. A text
of the first and a text of the second are shown in different tokens with a line break between the two. -/
theorem run?_separates (source : List Char) (dialect : Dialect) {earlier later : List Passage}
    (hfits : Fits source (Passage.writeAll (earlier ++ passage :: later)))
    (hholder : passage.holders[i]? = some parts) (hnested : Nested inner parts front back)
    (hinner : inner.isRule = false) {first second : String} {place₁ place₂ : List Char}
    (hfirst : HasText source dialect.breaks (front ++ inner.write) first place₁)
    (hsecond : HasText source dialect.breaks back second place₂) :
    Part.writeAll parts = front ++ (inner.write ++ back) ∧
    ∃ final block left right,
      run? source dialect.breaks {} (Passage.writeAll (earlier ++ passage :: later)) = some final ∧
      Block.visible final.blocks = earlier.filterMap (Passage.block? source dialect.breaks) ++
        block :: later.filterMap (Passage.block? source dialect.breaks) ∧
      block.sequences[i]? = some (left ++ .lineBreak :: right) ∧
      Shows first place₁ left ∧ Shows second place₂ right := by
  obtain ⟨left, right, hcontent, hleft, hright⟩ := hnested.separates hinner source dialect.breaks
  have hshown₁ := hleft.shows first place₁ hfirst
  have hshown₂ := hright.shows second place₂ hsecond
  rw [joinWithBreak_of_ne_nil hshown₁.ne_nil hshown₂.ne_nil] at hcontent
  obtain ⟨block, hblock, hsequence⟩ := exists_block_of_holders hholder (by rw [hcontent]; simp)
  obtain ⟨final, hrun, -, hblocks⟩ := run?_topLevel source dialect.breaks (earlier ++ passage :: later)
    (s := {}) ⟨rfl, rfl, rfl, rfl, rfl⟩ (by rintro stop ⟨⟩) hfits
  rw [hcontent] at hsequence
  refine ⟨hnested.writeAll_eq, final, block, left, right, hrun, ?_, hsequence, hshown₁, hshown₂⟩
  rw [hblocks, List.filterMap_append, List.filterMap_cons, hblock]
  rfl

/-- A code block in a tight item of a nested list, after texts of both items and before one. -/
theorem run?_separates_tightItem :
    let source := "- a\n  - b\n    ```\n    x\n    ```\n    c".toList
    let a : Part := .phrase (.leaf (.text "a") ⟨2, 3⟩)
    let b : Part := .phrase (.leaf (.text "b") ⟨8, 9⟩)
    let c : Part := .phrase (.leaf (.text "c") ⟨36, 37⟩)
    let code : Passage := .element ⟨14, 31⟩ ⟨14, 31⟩ (.code [("x\n", ⟨22, 28⟩)])
    let nested : Passage :=
      .element ⟨6, 37⟩ ⟨6, 37⟩ (.list none [.item ⟨6, 37⟩ ⟨6, 37⟩ [b, .passage code, c]])
    let passage : Passage :=
      .element ⟨0, 37⟩ ⟨0, 37⟩ (.list none [.item ⟨0, 37⟩ ⟨0, 37⟩ [a, .passage nested]])
    Fits source (Passage.writeAll [passage]) ∧
      ∃ final block left right, run? source false {} (Passage.writeAll [passage]) = some final ∧
        Block.visible final.blocks = [block] ∧ block.sequences[0]? = some (left ++ .lineBreak :: right) ∧
        Shows "x\n" ['a', 'b'] left ∧ Shows "c" [] right := by
  intro source a b c code nested passage
  let front : List Located := [⟨.text "a", ⟨2, 3⟩⟩, ⟨.start (.list none), ⟨6, 37⟩⟩, ⟨.start .item, ⟨6, 37⟩⟩,
    ⟨.text "b", ⟨8, 9⟩⟩]
  let back : List Located := [⟨.text "c", ⟨36, 37⟩⟩, ⟨.stop, ⟨6, 37⟩⟩, ⟨.stop, ⟨6, 37⟩⟩]
  have hfits : Fits source (Passage.writeAll [passage]) := by decide
  have hnested : Nested code [a, .passage nested] front back :=
    @Nested.list code [a] [] _ _ _ _ _ _ [] [] _ _ (.here [b] [c])
  have hfirst : HasText source false (front ++ code.write) "x\n" ['a', 'b'] :=
    ⟨front ++ [⟨.start .codeBlock, ⟨14, 31⟩⟩], ⟨22, 28⟩, [⟨.stop, ⟨14, 31⟩⟩], rfl, rfl, rfl⟩
  have hsecond : HasText source false back "c" [] := ⟨[], ⟨36, 37⟩, back.tail, rfl, rfl, rfl⟩
  have hholder : passage.holders[0]? = some [a, .passage nested] := rfl
  exact ⟨hfits, (@run?_separates code passage _ _ _ 0 source {} [] [] hfits hholder hnested rfl _ _ _ _
    hfirst hsecond).2⟩

/-- A rule in a tight item keeps nothing apart: the texts around it are one. -/
theorem rule_separates_nothing :
    let source := "- a\n  ***\n  b".toList
    let a : Part := .phrase (.leaf (.text "a") ⟨2, 3⟩)
    let b : Part := .phrase (.leaf (.text "b") ⟨12, 13⟩)
    let rule : Passage := .rule ⟨6, 9⟩
    let passage : Passage :=
      .element ⟨0, 13⟩ ⟨0, 13⟩ (.list none [.item ⟨0, 13⟩ ⟨0, 13⟩ [a, .passage rule, b]])
    Nested rule [a, .passage rule, b] [⟨.text "a", ⟨2, 3⟩⟩] [⟨.text "b", ⟨12, 13⟩⟩] ∧
      (∃ final, run? source false {} passage.write = some final ∧
        final.blocks = [.list false [[.text "ab"]]]) ∧
      ∀ left right : List Inline, [.text "ab"] ≠ left ++ .lineBreak :: right := by
  intro source a b rule passage
  refine ⟨.here [a] [b], ⟨_, rfl, rfl⟩, ?_⟩
  intro left right heq
  cases left <;> simp at heq

end Tree

end Folio

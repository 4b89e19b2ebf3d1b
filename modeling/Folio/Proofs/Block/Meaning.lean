import Folio.Proofs.Block.Content
import Folio.Proofs.Event.Tree
import Mathlib.Tactic.SplitIfs
/-!
# What an event tree means

The blocks of a tree, by recursion on the tree. At the top level a passage is one block, or none where
it has no content to show. Below a list or a quote a passage is a piece of inline content, and the
pieces are joined by line breaks. An item is read from left to right: phrases that stand next to each
other, with nothing but rules between them, are one piece, and so is each passage that is no rule.

Rules say nothing below the top level, not even that something ends.

What spans and code blocks stand for is spelled out here by the tag and by the lines. The machine goes by
the kind of a span and by the text that it has collected; that it closes both to the same tokens is
`SpanTag.closeSpan_kind` and `codeText_join`.
-/

namespace Folio.Tree

open Folding (mergeTexts joinPieces)

/-- The text of a source from one offset to another; empty if that is no slice. -/
def sourceText (source : List Char) (start stop : Nat) : List Char :=
  (Text.slice? source start (max start stop)).getD []

variable (source : List Char) (breaks : Bool)

def Leaf.token : Leaf → Inline
  | text literal => .text literal
  | code literal => .code literal
  | html literal => .unrecognized (some literal) none
  | footnoteReference label => .unrecognized (some ("[^" ++ label ++ "]")) none
  | softBreak => if breaks then .lineBreak else .text " "
  | hardBreak => .lineBreak
  | taskMarker checked => .text (if checked then "[x] " else "[ ] ")

/-- What the tag of an inline element makes of its content. A link shows the plain text of its content,
an image stands for its alternative text, and what has no token of its own keeps its children. -/
def SpanTag.token (tag : SpanTag) (content : List Inline) : Inline :=
  match tag.tag with
  | .strong => .strong content
  | .emphasis => .emphasis content
  | .strikethrough => .strikethrough content
  | .link href => .link (Inline.plainTextAll content) href
  | .image _ =>
    let alternative := Inline.plainTextAll content
    if alternative = "" then .unrecognized none none else .unrecognized (some alternative) none
  | _ => .unrecognized none (some content)

mutual

def Phrase.token : Phrase → Inline
  | .leaf event _ => event.token breaks
  | .element tag _ _ children => tag.token (mergeTexts (Phrase.tokens children))

/-- One token for each phrase, before neighbouring texts are put together. -/
def Phrase.tokens : List Phrase → List Inline
  | [] => []
  | phrase :: rest => phrase.token :: Phrase.tokens rest

end

def Phrase.content (phrases : List Phrase) : List Inline :=
  mergeTexts (Phrase.tokens breaks phrases)

/-- A text without the newline at its end. -/
def dropFinalNewline : List Char → List Char
  | [] => []
  | ['\n'] => []
  | c :: rest => c :: dropFinalNewline rest

/-- The text of a code block: its lines, less one line end at the end. -/
def codeOf (lines : List (String × Span)) : String :=
  String.ofList (dropFinalNewline (lines.flatMap fun line => line.1.toList))

mutual

/-- What a body puts into the list or quote around it. -/
def Body.content (opening closing : Span) : Body → List Inline
  | .paragraph content => Phrase.content breaks content
  | .heading _ content => [.strong (Phrase.content breaks content)]
  | .code lines => [.code (codeOf lines)]
  | .list _ items => joinPieces (Item.contents items)
  | .quote passages => joinPieces (Passage.contents passages)
  | .raw _ _ =>
    let raw := sourceText source opening.start closing.stop
    [.unrecognized (some (String.ofList (Text.trim raw))) none]

def Passage.content : Passage → List Inline
  | .rule _ => []
  | .element opening closing body => body.content opening closing

def Passage.contents : List Passage → List (List Inline)
  | [] => []
  | passage :: rest => passage.content :: Passage.contents rest

def Item.contents : List Item → List (List Inline)
  | [] => []
  | .item _ _ parts :: rest => joinPieces (Part.pieces [] parts) :: Item.contents rest

/-- The pieces of an item; `bare` are the tokens of the phrases since the last piece. -/
def Part.pieces (bare : List Inline) : List Part → List (List Inline)
  | [] => [mergeTexts bare]
  | .phrase phrase :: rest => Part.pieces (bare ++ [phrase.token breaks]) rest
  | .passage passage :: rest =>
    if passage.isRule then Part.pieces bare rest
    else mergeTexts bare :: passage.content :: Part.pieces [] rest

end

/-- The block that an element is at the top level. Empty paragraphs and quotes are none. -/
def Body.block? (opening closing : Span) : Body → Option Block
  | .paragraph content =>
    let inline := Phrase.content breaks content
    if inline.isEmpty then none else some (.paragraph inline)
  | .heading level content => some (.heading level (Phrase.content breaks content))
  | .code lines => some (.code (codeOf lines))
  | .list number items => some (.list number.isSome (Item.contents source breaks items))
  | .quote passages =>
    let inline := joinPieces (Passage.contents source breaks passages)
    if inline.isEmpty then none else some (.quote inline)
  | .raw _ _ => some (.unrecognized (String.ofList (sourceText source opening.start closing.stop)))

def Passage.block? : Passage → Option Block
  | .rule _ => some .rule
  | .element opening closing body => body.block? source breaks opening closing

/-! ### Spans and code as the machine closes them -/

section Closing

open Folding

/-- The machine goes by the kind of a span, the meaning by its tag. -/
theorem SpanTag.closeSpan_kind (tag : SpanTag) (content : List Inline) :
    closeSpan tag.kind content = tag.token content := by
  obtain ⟨tag, kind, hopens⟩ := tag
  cases tag with
  | image target =>
    obtain rfl : SpanKind.image = kind := Option.some.inj hopens
    by_cases hempty : Inline.plainTextAll content = ""
    · simp [closeSpan, SpanTag.token, hempty]
    · simp [closeSpan, SpanTag.token, hempty]
  | _ => cases hopens <;> rfl

theorem SpanTag.token_ne_text (tag : SpanTag) (content : List Inline) (text : String) :
    tag.token content ≠ .text text := by
  rw [← closeSpan_kind]
  cases tag.kind <;> simp [closeSpan]

/-- A text stays as it is, or a newline is all that is taken from it. -/
theorem dropFinalNewline_cases (text : List Char) :
    text.getLast? ≠ some '\n' ∧ dropFinalNewline text = text ∨ text = dropFinalNewline text ++ ['\n'] := by
  induction text using dropFinalNewline.induct with
  | case1 => exact .inl ⟨by simp, rfl⟩
  | case2 => exact .inr rfl
  | case3 c rest hmore ih =>
    rw [dropFinalNewline.eq_3 c rest hmore]
    rcases ih with ⟨hlast, hkept⟩ | hdropped
    · refine .inl ⟨?_, by rw [hkept]⟩
      cases rest with
      | nil =>
        intro hc
        exact hmore (by simpa using hc) rfl
      | cons second rest => rwa [List.getLast?_cons_cons]
    · exact .inr (congrArg (c :: ·) hdropped)

theorem codeText_join (lines : List (String × Span)) :
    State.codeText (String.join (lines.map (·.1))) = codeOf lines := by
  have hjoin : (String.join (lines.map (·.1))).toList = lines.flatMap fun line => line.1.toList := by
    simp [List.flatMap_map]
  rw [State.codeText, codeOf, ← hjoin]
  rcases dropFinalNewline_cases (String.join (lines.map (·.1))).toList with ⟨hlast, hkept⟩ | hdropped
  · rw [hkept, String.ofList_toList]
    split
    · contradiction
    · rfl
  · generalize dropFinalNewline _ = kept at hdropped ⊢
    rw [hdropped, List.getLast?_concat, List.dropLast_concat]
    rfl

end Closing

/-! ### Parts side by side -/

section Pieces

variable {source breaks}

open Folding

theorem Item.contents_eq_map (items : List Item) :
    Item.contents source breaks items =
      items.map fun item => joinPieces (Part.pieces source breaks [] item.parts) := by
  induction items with
  | nil => rfl
  | cons item rest ih =>
    cases item
    rw [Item.contents, List.map_cons, ih, Item.parts]

theorem Item.contents_append (first second : List Item) :
    Item.contents source breaks (first ++ second) =
      Item.contents source breaks first ++ Item.contents source breaks second := by
  rw [Item.contents_eq_map, Item.contents_eq_map, Item.contents_eq_map, List.map_append]

/-- The pieces on both sides of a passage are pieces of their own. -/
theorem joinPieces_pieces_split {passage : Passage} (hrule : passage.isRule = false) (bare : List Inline)
    (left right : List Part) :
    joinPieces (Part.pieces source breaks bare (left ++ .passage passage :: right)) =
      joinWithBreak (joinPieces (Part.pieces source breaks bare left))
        (joinWithBreak (passage.content source breaks) (joinPieces (Part.pieces source breaks [] right))) := by
  induction left generalizing bare with
  | nil =>
    have hnone : ¬ passage.isRule = true := by simp [hrule]
    rw [List.nil_append, Part.pieces, Part.pieces, if_neg hnone, joinPieces_cons, joinPieces_cons,
      joinPieces_cons, joinPieces_nil, joinWithBreak_nil_right]
  | cons part left ih =>
    cases part with
    | phrase phrase =>
      rw [List.cons_append, Part.pieces, Part.pieces]
      exact ih _
    | passage other =>
      rw [List.cons_append, Part.pieces, Part.pieces]
      split_ifs with hother
      · exact ih bare
      · rw [joinPieces_cons, joinPieces_cons, joinPieces_cons, joinPieces_cons, ih, joinWithBreak_assoc,
          joinWithBreak_assoc]

/-- Passages alone have the same content as the parts of an item without phrases. -/
theorem joinPieces_pieces_passages (passages : List Passage) :
    joinPieces (Part.pieces source breaks [] (passages.map .passage)) =
      joinPieces (Passage.contents source breaks passages) := by
  induction passages with
  | nil => rfl
  | cons passage rest ih =>
    rw [List.map_cons, Part.pieces, Passage.contents, joinPieces_cons, ← ih]
    cases passage with
    | rule span =>
      have hsome : Passage.isRule (.rule span) = true := rfl
      rw [if_pos hsome, Passage.content, joinWithBreak_nil_left]
    | element opening closing body =>
      have hnone : ¬ Passage.isRule (.element opening closing body) = true := by simp [Passage.isRule]
      rw [if_neg hnone, joinPieces_cons, joinPieces_cons, mergeTexts, joinWithBreak_nil_left]

end Pieces

end Folio.Tree

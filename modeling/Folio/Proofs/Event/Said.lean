import Folio.Proofs.Block.Meaning
import Folio.Proofs.Inline.Shown
/-!
# What a stream says

`said` reads a stream from left to right and collects what its events contribute, without building
anything. For the stream of a tree this is, up to newlines, the words of the content that the tree
means: nothing is lost between the two, nothing comes twice, and the order is the same. The text of every
event is then shown by one token, after as many words as the events before it say.

`Tells` holds both of tokens and a stream. It is kept by all that the meaning of a tree is built with, so
it holds of every tree.
-/

namespace Folio

/-- What one event outside the raw elements says. -/
def Event.said (breaks : Bool) : Event → List Char
  | .text literal | .code literal | .inlineHtml literal | .html literal => literal.toList
  | .footnoteReference label => ("[^" ++ label ++ "]").toList
  | .softBreak => if breaks then [] else [' ']
  | .taskMarker checked => (if checked then "[x] " else "[ ] ").toList
  | .start _ | .stop | .hardBreak | .rule | .math _ => []

/-- What a stream says from a place outside the raw elements, or inside one that started at an offset
and is nested so deep. A raw element says its trimmed source when it ends. -/
def said (source : List Char) (breaks : Bool) : Option (Nat × Nat) → List Located → List Char
  | _, [] => []
  | none, e :: rest =>
    match e.event with
    | .start tag => said source breaks (if tag.isRaw then some (e.span.start, 0) else none) rest
    | event => event.said breaks ++ said source breaks none rest
  | some (start, depth), e :: rest =>
    match e.event, depth with
    | .start _, depth => said source breaks (some (start, depth + 1)) rest
    | .stop, 0 => Text.trim (Tree.sourceText source start e.span.stop) ++ said source breaks none rest
    | .stop, depth + 1 => said source breaks (some (start, depth)) rest
    | _, depth => said source breaks (some (start, depth)) rest


/-- Where one event leads: outside the raw elements, or so deep into one. -/
def rawStep : Option (Nat × Nat) → Located → Option (Nat × Nat)
  | none, e =>
    match e.event with
    | .start tag => if tag.isRaw then some (e.span.start, 0) else none
    | _ => none
  | some (start, depth), e =>
    match e.event, depth with
    | .start _, depth => some (start, depth + 1)
    | .stop, 0 => none
    | .stop, depth + 1 => some (start, depth)
    | _, depth => some (start, depth)

/-- Where a stream leads. -/
def rawAfter (place : Option (Nat × Nat)) (events : List Located) : Option (Nat × Nat) :=
  events.foldl rawStep place

variable {source : List Char} {breaks : Bool} {place : Option (Nat × Nat)} {events more : List Located}

theorem rawAfter_append : rawAfter place (events ++ more) = rawAfter (rawAfter place events) more :=
  List.foldl_append

theorem said_cons (e : Located) (rest : List Located) :
    said source breaks place (e :: rest) =
      said source breaks place [e] ++ said source breaks (rawStep place e) rest := by
  obtain ⟨event, span⟩ := e
  rcases place with _ | ⟨start, depth⟩
  · cases event <;> simp [said, rawStep]
  · cases event with
    | stop => cases depth <;> simp [said, rawStep]
    | _ => simp [said, rawStep]

/-- A stream says what its first part says, and then what the rest says from there. -/
theorem said_append : said source breaks place (events ++ more) =
    said source breaks place events ++ said source breaks (rawAfter place events) more := by
  induction events generalizing place with
  | nil => rfl
  | cons e rest ih => rw [List.cons_append, said_cons, ih, said_cons e rest, List.append_assoc]; rfl

/-! ### Raw elements -/

theorem nestingAfter?_append (depth : Nat) :
    nestingAfter? depth (events ++ more) = (nestingAfter? depth events).bind (nestingAfter? · more) := by
  induction events generalizing depth with
  | nil => rfl
  | cons e rest ih =>
    obtain ⟨event, span⟩ := e
    cases event with
    | stop =>
      cases depth with
      | zero => rfl
      | succ depth => exact ih depth
    | _ => exact ih _

/-- Inside a raw element a stream only goes deeper or less deep. -/
theorem rawAfter_of_nesting {start depth final : Nat} (hnesting : nestingAfter? depth events = some final) :
    rawAfter (some (start, depth)) events = some (start, final) := by
  induction events generalizing depth with
  | nil =>
    obtain rfl : depth = final := by simpa [nestingAfter?] using hnesting
    rfl
  | cons e rest ih =>
    obtain ⟨event, span⟩ := e
    cases event with
    | stop =>
      cases depth with
      | zero => simp [nestingAfter?] at hnesting
      | succ depth => exact ih hnesting
    | _ => exact ih hnesting

theorem said_of_nesting {start depth final : Nat} (hnesting : nestingAfter? depth events = some final) :
    said source breaks (some (start, depth)) events = [] := by
  induction events generalizing depth with
  | nil => rfl
  | cons e rest ih =>
    obtain ⟨event, span⟩ := e
    cases event with
    | stop =>
      cases depth with
      | zero => simp [nestingAfter?] at hnesting
      | succ depth => exact ih hnesting
    | _ => exact ih hnesting

/-! ### Tokens that tell a stream -/

theorem Tree.SpanTag.isRaw_eq_false (tag : SpanTag) : tag.tag.isRaw = false := by
  obtain ⟨tag, kind, hopens⟩ := tag
  cases tag <;> simp [Tag.spanKind?] at hopens <;> rfl

theorem Tree.SpanTag.plainText_token (tag : SpanTag) (content : List Inline) :
    (tag.token content).plainText = Inline.plainTextAll content := by
  rw [← tag.closeSpan_kind, Inline.plainText_closeSpan]

/-- A stream has a text, in an event outside the raw elements; the events before it say `place`. -/
def HasText (source : List Char) (breaks : Bool) (events : List Located) (text : String) (place : List Char) :
    Prop :=
  ∃ before span after, events = before ++ ⟨.text text, span⟩ :: after ∧ rawAfter none before = none ∧
    place = withoutNewlines (said source breaks none before)

/-- Tokens have the words that a whole stream says, and show every text of the stream in its place. -/
structure Tells (source : List Char) (breaks : Bool) (tokens : List Inline) (events : List Located) :
    Prop where
  outside : rawAfter none events = none
  words : Inline.words tokens = withoutNewlines (said source breaks none events)
  shows : ∀ text place, HasText source breaks events text place → Shows text place tokens

namespace Tells

open Folding Folio.Tree

variable {tokens others : List Inline}

theorem not_hasText_nil {text : String} {place : List Char} : ¬ HasText source breaks [] text place := by
  rintro ⟨before, span, after, hsplit, -⟩
  simp at hsplit

theorem nil : Tells source breaks [] [] :=
  ⟨rfl, rfl, fun _ _ htext => absurd htext not_hasText_nil⟩

/-- A text of two streams is in the first, or in the second after all that the first says. -/
theorem hasText_append {text : String} {place : List Char} (houtside : rawAfter none events = none)
    (htext : HasText source breaks (events ++ more) text place) :
    HasText source breaks events text place ∨
      ∃ later, HasText source breaks more text later ∧
        place = withoutNewlines (said source breaks none events) ++ later := by
  obtain ⟨before, span, after, hsplit, hbefore, rfl⟩ := htext
  have hsecond : ∀ between, before = events ++ between → more = between ++ ⟨.text text, span⟩ :: after →
      ∃ later, HasText source breaks more text later ∧
        withoutNewlines (said source breaks none before) =
          withoutNewlines (said source breaks none events) ++ later := by
    rintro between rfl hmore
    rw [rawAfter_append, houtside] at hbefore
    rw [said_append, houtside, withoutNewlines_append]
    exact ⟨_, ⟨between, span, after, hmore, hbefore, rfl⟩, rfl⟩
  rcases List.append_eq_append_iff.mp hsplit with ⟨between, hbetween, hmore⟩ | ⟨between, hevents, hrest⟩
  · exact .inr (hsecond between hbetween hmore)
  · rcases List.cons_eq_append_iff.mp hrest with ⟨rfl, hmore⟩ | ⟨rest, rfl, -⟩
    · rw [List.append_nil] at hevents
      exact .inr (hsecond [] (by rw [hevents, List.append_nil]) hmore)
    · exact .inl ⟨before, span, rest, hevents, hbefore, rfl⟩

theorem append (hfirst : Tells source breaks tokens events) (hsecond : Tells source breaks others more) :
    Tells source breaks (tokens ++ others) (events ++ more) := by
  refine ⟨?_, ?_, ?_⟩
  · rw [rawAfter_append, hfirst.outside, hsecond.outside]
  · rw [Inline.words_append, said_append, hfirst.outside, withoutNewlines_append, hfirst.words, hsecond.words]
  · intro text place htext
    rcases hasText_append hfirst.outside htext with hearlier | ⟨later, hlater, rfl⟩
    · exact (hfirst.shows text place hearlier).append_left others
    · rw [← hfirst.words]
      exact (hsecond.shows text later hlater).append_right tokens

theorem mergeTexts (h : Tells source breaks tokens events) :
    Tells source breaks (mergeTexts tokens) events :=
  ⟨h.outside, (Inline.words_mergeTexts tokens).trans h.words, fun text place htext =>
    (h.shows text place htext).mergeTexts⟩

/-- A token that is made of others and has their plain text tells what they tell. -/
theorem of_plainText (h : Tells source breaks tokens events) {token : Inline}
    (htoken : token.plainText = Inline.plainTextAll tokens) : Tells source breaks [token] events := by
  refine ⟨h.outside, ?_, fun text place htext => (h.shows text place htext).of_plainText htoken⟩
  rw [Inline.words_singleton, htoken, ← h.words]
  rfl

theorem joinWithBreak (hfirst : Tells source breaks tokens events)
    (hsecond : Tells source breaks others more) :
    Tells source breaks (joinWithBreak tokens others) (events ++ more) := by
  rcases tokens with _ | ⟨first, tokens⟩
  · rw [joinWithBreak_nil_left]
    exact hfirst.append hsecond
  rcases others with _ | ⟨second, others⟩
  · rw [joinWithBreak_nil_right]
    simpa using hfirst.append hsecond
  have hbreak : Tells source breaks [.lineBreak] [] :=
    ⟨rfl, rfl, fun _ _ htext => absurd htext not_hasText_nil⟩
  exact hfirst.append (hbreak.append hsecond)

/-! ### Single events -/

theorem eq_of_singleton_eq {e found : Located} {before after : List Located}
    (hsplit : [e] = before ++ found :: after) : before = [] ∧ found = e := by
  cases before with
  | nil => exact ⟨rfl, (List.cons.inj hsplit).1.symm⟩
  | cons head rest => simp at hsplit

/-- Nothing tells an event that is no text and says nothing. -/
theorem of_silent {e : Located} (houtside : rawStep none e = none) (hsaid : said source breaks none [e] = [])
    (htext : ∀ text, e.event ≠ .text text) : Tells source breaks [] [e] := by
  refine ⟨houtside, by rw [hsaid]; rfl, ?_⟩
  rintro text place ⟨before, span, after, hsplit, -⟩
  obtain ⟨-, rfl⟩ := eq_of_singleton_eq hsplit
  exact absurd rfl (htext text)

theorem start {tag : Tag} (htag : tag.isRaw = false) (span : Span) :
    Tells source breaks [] [⟨.start tag, span⟩] :=
  of_silent (by simp [rawStep, htag]) (by simp [said]) (by simp)

theorem stop (span : Span) : Tells source breaks [] [⟨.stop, span⟩] :=
  of_silent rfl rfl (by simp)

theorem rule (span : Span) : Tells source breaks [] [⟨.rule, span⟩] :=
  of_silent rfl rfl (by simp)

/-- An element that is not passed through tells what is inside it. -/
theorem enclose {tag : Tag} (htag : tag.isRaw = false) (opening closing : Span)
    (h : Tells source breaks tokens events) :
    Tells source breaks tokens (enclose tag opening closing events) := by
  simpa [Tree.enclose] using (start htag opening).append (h.append (stop closing))

theorem leaf (leaf : Leaf) (span : Span) :
    Tells source breaks [leaf.token breaks] [⟨leaf.event, span⟩] := by
  refine ⟨by cases leaf <;> rfl, ?_, ?_⟩
  · rw [Inline.words_singleton]
    cases leaf with
    | softBreak => cases breaks <;> rfl
    | hardBreak => simp [Leaf.token, Leaf.event, said, Event.said, Inline.plainText, withoutNewlines]
    | _ => simp [Leaf.token, Leaf.event, said, Event.said, Inline.plainText]
  · rintro text _ ⟨before, _, after, hsplit, -, rfl⟩
    obtain ⟨rfl, hfound⟩ := eq_of_singleton_eq hsplit
    have hevent : leaf.event = .text text := (congrArg Located.event hfound).symm
    cases leaf with
    | text literal =>
      obtain rfl := Event.text.inj hevent
      exact .head (.self literal)
    | _ => cases hevent

/-! ### Code blocks and raw elements -/

theorem rawAfter_writeLines (lines : List (String × Span)) : rawAfter none (writeLines lines) = none := by
  induction lines with
  | nil => rfl
  | cons line lines ih => exact ih

theorem said_writeLines (lines : List (String × Span)) :
    said source breaks none (writeLines lines) = lines.flatMap fun line => line.1.toList := by
  induction lines with
  | nil => rfl
  | cons line lines ih =>
    rw [writeLines, List.map_cons, said_cons]
    rw [writeLines] at ih
    rw [rawStep, ih]
    simp [said, Event.said]

theorem writeLines_eq_append {lines : List (String × Span)} {before after : List Located} {e : Located}
    (hsplit : writeLines lines = before ++ e :: after) :
    ∃ earlier line later, lines = earlier ++ line :: later ∧ before = writeLines earlier ∧
      e = ⟨.text line.1, line.2⟩ := by
  obtain ⟨earlier, rest, rfl, hbefore, hrest⟩ := List.map_eq_append_iff.mp hsplit
  obtain ⟨line, later, rfl, hline, -⟩ := List.map_eq_cons_iff.mp hrest
  exact ⟨earlier, line, later, rfl, hbefore.symm, hline.symm⟩

theorem code (lines : List (String × Span)) :
    Tells source breaks [.code (codeOf lines)] (writeLines lines) := by
  have hcode := dropFinalNewline_cases (lines.flatMap fun line => line.1.toList)
  refine ⟨rawAfter_writeLines lines, ?_, ?_⟩
  · rw [Inline.words_singleton, said_writeLines, Inline.plainText, codeOf, String.toList_ofList]
    rcases hcode with ⟨-, hkept⟩ | hdropped
    · rw [hkept]
    · have hwords := congrArg withoutNewlines hdropped
      rw [withoutNewlines_append] at hwords
      exact (hwords.trans (List.append_nil _)).symm
  · rintro text _ ⟨before, span, after, hsplit, -, rfl⟩
    obtain ⟨earlier, line, later, rfl, rfl, hline⟩ := writeLines_eq_append hsplit
    obtain rfl : text = line.1 := by simpa using congrArg Located.event hline
    have hjoin : ((earlier ++ line :: later).flatMap fun line => line.1.toList) =
        (earlier.flatMap fun line => line.1.toList) ++
          (line.1.toList ++ later.flatMap fun line => line.1.toList) := by
      simp
    apply Shows.head
    rw [said_writeLines, Inline.plainText, codeOf, String.toList_ofList]
    rcases hcode with ⟨-, hkept⟩ | hdropped
    · rw [hkept]
      exact ⟨_, _, _, hjoin, rfl, .inl rfl⟩
    · exact .of_concat_newline (hjoin.symm.trans hdropped)

/-- No event inside a raw element is outside the raw elements. -/
theorem rawAfter_startRaw_ne_none {tag : RawTag} {opening closing span : Span} {inside : Balanced}
    {text : String} {before after : List Located}
    (hsplit : Tree.enclose tag.tag opening closing inside.events = before ++ ⟨.text text, span⟩ :: after) :
    rawAfter none before ≠ none := by
  have hstart : rawStep none ⟨.start tag.tag, opening⟩ = some (opening.start, 0) := by simp [rawStep, tag.raw]
  cases before with
  | nil => simp [Tree.enclose] at hsplit
  | cons head before =>
    obtain ⟨rfl, hinside⟩ := List.cons.inj hsplit
    have hprefix : ∃ rest, inside.events = before ++ rest := by
      rcases List.append_eq_append_iff.mp hinside with ⟨between, -, hstop⟩ | ⟨rest, hevents, -⟩
      · obtain ⟨-, hfound⟩ := eq_of_singleton_eq hstop
        cases congrArg Located.event hfound
      · exact ⟨rest, hevents⟩
    obtain ⟨rest, hevents⟩ := hprefix
    have hclosed := inside.closed
    rw [hevents, nestingAfter?_append] at hclosed
    obtain ⟨depth, hdepth, -⟩ := Option.bind_eq_some_iff.mp hclosed
    rw [rawAfter, List.foldl_cons, hstart, ← rawAfter, rawAfter_of_nesting hdepth]
    exact Option.some_ne_none _

/-- A raw element tells its trimmed source. -/
theorem raw (tag : RawTag) (opening closing : Span) (inside : Balanced) :
    Tells source breaks
      [.unrecognized (some (String.ofList (Text.trim (sourceText source opening.start closing.stop)))) none]
      (Tree.enclose tag.tag opening closing inside.events) := by
  have hstart : rawStep none ⟨.start tag.tag, opening⟩ = some (opening.start, 0) := by simp [rawStep, tag.raw]
  have hinside := @rawAfter_of_nesting inside.events opening.start 0 0 inside.closed
  refine ⟨?_, ?_, ?_⟩
  · rw [Tree.enclose, rawAfter, List.foldl_cons, hstart, ← rawAfter, rawAfter_append, hinside]
    rfl
  · rw [Tree.enclose, said_cons, hstart, said_append, said_of_nesting inside.closed, hinside,
      Inline.words_singleton]
    simp [said, Inline.plainText]
  · rintro text place ⟨before, span, after, hsplit, hbefore, -⟩
    exact absurd hbefore (rawAfter_startRaw_ne_none hsplit)

end Tells

/-! ### Trees -/

namespace Tree

open Folding

variable (source breaks)

mutual

theorem tells_phrase : ∀ phrase : Phrase, Tells source breaks [phrase.token breaks] phrase.write
  | .leaf event span => .leaf event span
  | .element tag opening closing children =>
    ((tells_phrases children).mergeTexts.of_plainText (tag.plainText_token _)).enclose
      tag.isRaw_eq_false opening closing

theorem tells_phrases : ∀ phrases : List Phrase,
    Tells source breaks (Phrase.tokens breaks phrases) (Phrase.writeAll phrases)
  | [] => .nil
  | phrase :: rest => (tells_phrase phrase).append (tells_phrases rest)

end

theorem tells_content (phrases : List Phrase) :
    Tells source breaks (Phrase.content breaks phrases) (Phrase.writeAll phrases) :=
  (tells_phrases source breaks phrases).mergeTexts

mutual

/-- What an element puts into its container tells the element. -/
theorem tells_element : ∀ (body : Body) (opening closing : Span),
    Tells source breaks (body.content source breaks opening closing)
      (enclose body.tag opening closing body.write)
  | .paragraph content, opening, closing => (tells_content source breaks content).enclose rfl opening closing
  | .heading _ content, opening, closing =>
    ((tells_content source breaks content).of_plainText rfl).enclose rfl opening closing
  | .code lines, opening, closing => (Tells.code lines).enclose rfl opening closing
  | .list _ items, opening, closing => (tells_items items).enclose rfl opening closing
  | .quote passages, opening, closing => (tells_passages passages).enclose rfl opening closing
  | .raw tag inside, opening, closing => .raw tag opening closing inside

theorem tells_passage : ∀ passage : Passage,
    Tells source breaks (passage.content source breaks) passage.write
  | .rule span => .rule span
  | .element opening closing body => tells_element body opening closing

theorem tells_passages : ∀ passages : List Passage,
    Tells source breaks (joinPieces (Passage.contents source breaks passages)) (Passage.writeAll passages)
  | [] => .nil
  | passage :: rest => by
    rw [Passage.contents, joinPieces_cons]
    exact (tells_passage passage).joinWithBreak (tells_passages rest)

theorem tells_items : ∀ items : List Item,
    Tells source breaks (joinPieces (Item.contents source breaks items)) (Item.writeAll items)
  | [] => .nil
  | .item opening closing parts :: rest => by
    have htag : Tag.isRaw .item = false := rfl
    have hitem := (tells_parts parts [] [] .nil).enclose htag opening closing
    rw [Item.contents, joinPieces_cons]
    exact hitem.joinWithBreak (tells_items rest)

/-- The pieces of an item tell the phrases since the last piece and then the parts. -/
theorem tells_parts : ∀ (parts : List Part) (bare : List Inline) (events : List Located),
    Tells source breaks bare events →
    Tells source breaks (joinPieces (Part.pieces source breaks bare parts)) (events ++ Part.writeAll parts)
  | [], bare, events, hbare => by
    rw [Part.pieces, joinPieces_cons, joinPieces_nil, joinWithBreak_nil_right, Part.writeAll, List.append_nil]
    exact hbare.mergeTexts
  | .phrase phrase :: rest, bare, events, hbare => by
    rw [Part.pieces, Part.writeAll, ← List.append_assoc]
    exact tells_parts rest _ _ (hbare.append (tells_phrase source breaks phrase))
  | .passage passage :: rest, bare, events, hbare => by
    rw [Part.pieces, Part.writeAll]
    split_ifs with hrule
    · cases passage with
      | rule span =>
        have hsame := hbare.append (.rule span)
        rw [List.append_nil] at hsame
        rw [← List.append_assoc]
        exact tells_parts rest bare _ hsame
      | element opening closing body => simp [Passage.isRule] at hrule
    · rw [joinPieces_cons, joinPieces_cons]
      exact hbare.mergeTexts.joinWithBreak
        ((tells_passage passage).joinWithBreak (tells_parts rest [] [] .nil))

end

/-- A list of passages says the words of its contents, and then what follows it is said. -/
theorem said_passages (passages : List Passage) (rest : List Located) :
    withoutNewlines (said source breaks none (Passage.writeAll passages ++ rest)) =
      (Passage.contents source breaks passages).flatMap Inline.words ++
        withoutNewlines (said source breaks none rest) := by
  have htells := tells_passages source breaks passages
  rw [said_append, htells.outside, withoutNewlines_append, ← htells.words, Inline.words_joinPieces]

end Tree

end Folio

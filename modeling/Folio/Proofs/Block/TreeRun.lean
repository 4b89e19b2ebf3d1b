import Folio.Proofs.Block.Steps
/-!
# Running the machine over a tree

From its start event to its stop event an element has one effect, and the effect is known from the tree:
inline elements add one token to what is pending, a passage is placed as its meaning says. Each lemma
here says so for one sort of tree, from every state in which that sort can occur, and each is proved from
the lemmas for the trees below. The state in the middle of an element is never described.
-/

namespace Folio.Folding

open Folio.Tree State

variable (source : List Char) (breaks : Bool) {s : State}

/-! ### Inline elements -/

theorem step?_leaf (hs : s.Flowing) (leaf : Leaf) (span : Span) (before : List Inline)
    (hpending : s.pending = mergeTexts before) :
    s.step? source breaks ⟨leaf.event, span⟩ =
      some { s with pending := mergeTexts (before ++ [leaf.token breaks]) } := by
  have hdepth : ¬ 0 < s.rawDepth := by
    rw [hs.rawDepth]
    exact Nat.lt_irrefl 0
  have htext : ∀ text, { s with pending := pushText s.pending text } =
      { s with pending := mergeTexts (before ++ [.text text]) } := by
    intro text
    rw [mergeTexts_append_text, hpending]
  have htoken : ∀ token, (∀ text, token ≠ Inline.text text) → s.addInline token =
      { s with pending := mergeTexts (before ++ [token]) } := by
    intro token hne
    rw [mergeTexts_append_token before hne, addInline, hpending]
  rw [step?, if_neg hdepth]
  cases leaf with
  | text literal =>
    show some (s.addText literal) = _
    rw [addText, hs.notCode]
    exact congrArg some (htext literal)
  | softBreak =>
    cases breaks with
    | false => exact congrArg some (htext " ")
    | true => exact congrArg some (htoken .lineBreak (by simp))
  | taskMarker checked => exact congrArg some (htext _)
  | _ => exact congrArg some (htoken _ (by simp))

mutual

/-- A phrase adds its token to what is pending. -/
theorem run?_phrase : ∀ (phrase : Phrase) {s : State} (before : List Inline), s.Flowing →
    s.pending = mergeTexts before →
    run? source breaks s phrase.write =
      some { s with pending := mergeTexts (before ++ [phrase.token breaks]) }
  | .leaf event span, s, before, hs, hpending => by
    rw [Phrase.write, Phrase.token, run?_singleton]
    exact step?_leaf source breaks hs event span before hpending
  | .element tag opening closing children, s, before, hs, hpending => by
    have hstart : s.step? source breaks ⟨.start tag.tag, opening⟩ = some (s.openSpan tag.kind) := by
      rw [step?_start hs.rawDepth, start?_of_frames hs.frames, openElement_spanTag]
    have hinside := run?_phrases children [] (s := s.openSpan tag.kind)
      ⟨List.cons_ne_nil _ _, rfl, hs.rawDepth⟩ rfl
    have hclosed : run? source breaks (s.openSpan tag.kind) (Phrase.writeAll children ++ [⟨.stop, closing⟩]) =
        some (finishAt { s with
          pending := s.pending ++ [closeSpan tag.kind (Phrase.content breaks children)]
          rawDepth := 0 } closing.stop) :=
      run?_closing hinside rfl (Nat.le_of_lt_succ (by simp [openSpan, hs.rawDepth])) rfl
    rw [Phrase.write, enclose, run?_cons, hstart, Option.bind_some, hclosed, finishAt_of_frames,
      tag.closeSpan_kind, Phrase.token, mergeTexts_append_token before (tag.token_ne_text _), ← hpending,
      ← hs.rawDepth]
    · rfl
    · exact hs.frames

theorem run?_phrases : ∀ (phrases : List Phrase) {s : State} (before : List Inline), s.Flowing →
    s.pending = mergeTexts before →
    run? source breaks s (Phrase.writeAll phrases) =
      some { s with pending := mergeTexts (before ++ Phrase.tokens breaks phrases) }
  | [], s, before, _, hpending => by
    rw [Phrase.writeAll, run?, Phrase.tokens, List.append_nil, ← hpending]
  | phrase :: rest, s, before, hs, hpending => by
    have hrest := run?_phrases rest (before ++ [phrase.token breaks])
      (s := { s with pending := mergeTexts (before ++ [phrase.token breaks]) })
      ⟨hs.frames, hs.notCode, hs.rawDepth⟩ rfl
    rw [Phrase.writeAll, run?_append, run?_phrase phrase before hs hpending, Option.bind_some, hrest,
      Phrase.tokens, List.append_assoc, List.singleton_append]

end

/-! ### Code blocks and raw elements -/

theorem run?_writeLines (lines : List (String × Span)) {frames : List Frame}
    (hframes : s.frames = .code :: frames) (hdepth : s.rawDepth = 0) :
    run? source breaks s (writeLines lines) =
      some { s with code := s.code ++ String.join (lines.map (·.1)) } := by
  induction lines generalizing s with
  | nil => simp [writeLines, run?]
  | cons line lines ih =>
    have hstep : s.step? source breaks ⟨.text line.1, line.2⟩ =
        some { s with code := s.code ++ line.1 } := by
      simp [step?, addText, atCode, hframes, hdepth]
    rw [writeLines, List.map_cons, run?_cons, hstep, Option.bind_some]
    have hrest := ih (s := { s with code := s.code ++ line.1 }) hframes hdepth
    rw [writeLines] at hrest
    rw [hrest]
    simp [String.append_assoc]

/-- Inside a raw element only the depth is kept, one more than the nesting of what was read. -/
theorem run?_raw (events : List Located) {depth final : Nat} (hdepth : s.rawDepth = depth + 1)
    (hnesting : nestingAfter? depth events = some final) :
    run? source breaks s events = some { s with rawDepth := final + 1 } := by
  induction events generalizing s depth with
  | nil =>
    obtain rfl : depth = final := by simpa [nestingAfter?] using hnesting
    rw [run?, ← hdepth]
  | cons e rest ih =>
    have hraw : 0 < s.rawDepth := by omega
    obtain ⟨event, span⟩ := e
    rw [run?_cons, step?, if_pos hraw]
    cases event with
    | start tag =>
      simp only [nestingAfter?] at hnesting
      simpa using ih (s := { s with rawDepth := s.rawDepth + 1 }) (by simp [hdepth]) hnesting
    | stop =>
      cases depth with
      | zero => simp [nestingAfter?] at hnesting
      | succ depth =>
        simp only [nestingAfter?] at hnesting
        have hstop : s.stop? source span.stop = some { s with rawDepth := s.rawDepth - 1 } := by
          rw [stop?, if_pos (by omega)]
        simpa [hstop] using ih (s := { s with rawDepth := s.rawDepth - 1 }) (by simp [hdepth]) hnesting
    | _ =>
      simp only [nestingAfter?] at hnesting
      simpa using ih hdepth hnesting

/-! ### Passages -/

theorem slice?_sourceText {opening closing : Span} (hopening : opening.Fits source)
    (hclosing : closing.Fits source) :
    Text.slice? source opening.start (max opening.start closing.stop) =
      some (sourceText source opening.start closing.stop) := by
  obtain ⟨raw, hraw⟩ := Text.slice?_of_isBoundary hopening.1
    (Text.isBoundary_max hopening.1 hclosing.2) (Nat.le_max_left _ _)
  rw [sourceText, hraw]
  rfl

theorem openElement_rawTag (tag : RawTag) (start : Nat) :
    s.openElement tag.tag start = s.openRaw start := by
  rcases tag.tag_cases with h | h | h <;> rw [h] <;> rfl

mutual

/-- From just after its start event, an element ends placed as its meaning says. -/
theorem run?_body : ∀ (body : Body) {s : State} {opening closing : Span}, s.Settled →
    opening.Fits source → closing.Fits source → Fits source body.write →
    run? source breaks (s.openElement body.tag opening.start) (body.write ++ [⟨.stop, closing⟩]) =
      some ((s.place (body.content source breaks opening closing)
        (body.block? source breaks opening closing)).finishAt closing.stop)
  | .paragraph content, s, opening, closing, hs, _, _, _ => by
    obtain ⟨blocks, frames, containers, pending, code, rawDepth, lastEnd⟩ := s
    obtain ⟨rfl, rfl, rfl⟩ := hs
    exact run?_closing (run?_phrases source breaks content [] ⟨List.cons_ne_nil _ _, rfl, rfl⟩ rfl) rfl
      (Nat.zero_le 1) (congrArg some (placeContent_eq_place _ _))
  | .heading level content, s, opening, closing, hs, _, _, _ => by
    obtain ⟨blocks, frames, containers, pending, code, rawDepth, lastEnd⟩ := s
    obtain ⟨rfl, rfl, rfl⟩ := hs
    refine run?_closing (run?_phrases source breaks content [] ⟨List.cons_ne_nil _ _, rfl, rfl⟩ rfl) rfl
      (Nat.zero_le 1) ?_
    cases containers <;> rfl
  | .code lines, s, opening, closing, hs, _, _, _ => by
    obtain ⟨blocks, frames, containers, pending, code, rawDepth, lastEnd⟩ := s
    obtain ⟨rfl, rfl, rfl⟩ := hs
    have hinside : run? source breaks ⟨blocks, .code :: frames, containers, [], "", 0, lastEnd⟩
        (writeLines lines) = some ⟨blocks, .code :: frames, containers, [],
          String.join (lines.map (·.1)), 0, lastEnd⟩ := by
      rw [run?_writeLines source breaks lines rfl rfl]
      simp
    refine run?_closing hinside rfl (Nat.zero_le 1) ?_
    rw [Body.content, Body.block?, ← codeText_join]
    cases containers <;> rfl
  | .list number items, s, opening, closing, hs, _, _, hfits => by
    obtain ⟨blocks, frames, containers, pending, code, rawDepth, lastEnd⟩ := s
    obtain ⟨rfl, rfl, rfl⟩ := hs
    refine run?_closing (run?_items items []
      ⟨List.cons_ne_nil _ _, List.cons_ne_nil _ _, rfl, rfl⟩ rfl rfl hfits) rfl
      (Nat.zero_le 1) ?_
    rw [Body.content, Body.block?, List.nil_append]
    cases containers with
    | nil => rfl
    | cons container outer => exact congrArg some (foldl_appendNested _)
  | .quote passages, s, opening, closing, hs, _, _, hfits => by
    obtain ⟨blocks, frames, containers, pending, code, rawDepth, lastEnd⟩ := s
    obtain ⟨rfl, rfl, rfl⟩ := hs
    refine run?_closing (run?_passages passages
      ⟨List.cons_ne_nil _ _, List.cons_ne_nil _ _, rfl, rfl⟩ rfl hfits) rfl (Nat.zero_le 1) ?_
    show some (placeContent _ (joinWithBreak [] _) .quote) = _
    rw [joinWithBreak_nil_left]
    exact congrArg some (placeContent_eq_place _ _)
  | .raw tag inside, s, opening, closing, hs, hopening, hclosing, _ => by
    obtain ⟨blocks, frames, containers, pending, code, rawDepth, lastEnd⟩ := s
    obtain ⟨rfl, rfl, rfl⟩ := hs
    rw [Body.tag, openElement_rawTag]
    refine run?_closing (run?_raw source breaks inside.events rfl inside.closed) rfl (Nat.le_refl 1) ?_
    rw [close?, closeRaw?, slice?_sourceText source hopening hclosing]
    cases containers <;> rfl

/-- Inside a container a passage is one more piece, and a rule is nothing. -/
theorem run?_passage : ∀ (passage : Passage) {s : State}, s.Held → Fits source passage.write →
    run? source breaks s passage.write =
      some (if passage.isRule then s else s.flush.appendNested (passage.content source breaks))
  | .rule span, s, hs, _ => by
    rw [Passage.write, run?_singleton, Passage.isRule, if_pos rfl, step?, if_neg (by simp [hs.rawDepth])]
    exact if_neg (by simpa using hs.frames)
  | .element opening closing body, s, hs, hfits => by
    obtain ⟨hopening, hinside, hclosing⟩ := fits_enclose.mp hfits
    have hflush := hs.flush
    have hstart : s.step? source breaks ⟨.start body.tag, opening⟩ =
        some (s.flush.openElement body.tag opening.start) := by
      rw [step?_start hs.rawDepth, start?_of_frames hs.frames]
      exact congrArg some (openElement_flush hs body.tag opening.start body.tag_spanKind?.1
        body.tag_spanKind?.2)
    rw [Passage.write, enclose, run?_cons, hstart, Option.bind_some,
      run?_body body (hflush.settled hs.flush_pending) hopening hclosing hinside,
      place_of_container hflush.containers, finishAt_of_frames]
    · rfl
    · rw [appendNested_frames]
      exact hflush.frames

theorem run?_passages : ∀ (passages : List Passage) {s : State}, s.Held → s.pending = [] →
    Fits source (Passage.writeAll passages) →
    run? source breaks s (Passage.writeAll passages) =
      some (s.appendNested (joinPieces (Passage.contents source breaks passages)))
  | [], s, _, _, _ => by
    rw [Passage.writeAll, Passage.contents, joinPieces_nil, appendNested_nil]
    rfl
  | passage :: rest, s, hs, hpending, hfits => by
    obtain ⟨hfirst, hrest⟩ := fits_append.mp hfits
    have hone : run? source breaks s passage.write =
        some (s.appendNested (passage.content source breaks)) := by
      rw [run?_passage passage hs hfirst]
      cases passage with
      | rule span => simp [Passage.isRule, Passage.content]
      | element opening closing body =>
        rw [Passage.isRule, flush_of_pending_nil hpending]
        rfl
    rw [Passage.writeAll, run?_append, hone, Option.bind_some,
      run?_passages rest (hs.appendNested _) (by rw [appendNested_pending, hpending]) hrest,
      appendNested_appendNested, Passage.contents, joinPieces_cons]

/-- The items of a list are added to those that are done. -/
theorem run?_items : ∀ (items : List Item) {s : State} {ordered : Bool} {outer : List Container}
    (done : List (List Inline)), s.Held → s.containers = .list ordered done [] :: outer →
    s.pending = [] → Fits source (Item.writeAll items) →
    run? source breaks s (Item.writeAll items) =
      some { s with
        containers := .list ordered (done ++ Item.contents source breaks items) [] :: outer }
  | [], s, ordered, outer, done, _, hcontainers, _, _ => by
    rw [Item.writeAll, Item.contents, List.append_nil, ← hcontainers]
    rfl
  | .item opening closing parts :: rest, s, ordered, outer, done, hs, hcontainers, hpending, hfits => by
    obtain ⟨hitem, hrest⟩ := fits_append.mp hfits
    obtain ⟨-, hparts, -⟩ := fits_enclose.mp hitem
    obtain ⟨blocks, frames, containers, pending, code, rawDepth, lastEnd⟩ := s
    have hframes : frames ≠ [] := hs.frames
    obtain ⟨-, -, rfl, rfl⟩ := hs
    obtain rfl : containers = _ := hcontainers
    obtain rfl : pending = [] := hpending
    have hstart : step? ⟨blocks, frames, .list ordered done [] :: outer, [], "", 0, lastEnd⟩ source breaks
        ⟨.start .item, opening⟩ =
        some ⟨blocks, .item :: frames, .list ordered done [] :: outer, [], "", 0, lastEnd⟩ := by
      rw [step?_start rfl, start?_of_frames hframes]
      rfl
    have hfirst : run? source breaks ⟨blocks, .item :: frames, .list ordered done [] :: outer, [], "", 0, lastEnd⟩
        (Part.writeAll parts ++ [⟨.stop, closing⟩]) = some ⟨blocks, frames,
          .list ordered (done ++ [joinPieces (Part.pieces source breaks [] parts)]) [] :: outer, [], "", 0,
          lastEnd⟩ := by
      rw [run?_parts parts [] ⟨List.cons_ne_nil _ _, List.cons_ne_nil _ _, rfl, rfl⟩ rfl hframes rfl rfl
        hparts, joinWithBreak_nil_left]
    have hothers := run?_items rest (done ++ [joinPieces (Part.pieces source breaks [] parts)])
      (s := ⟨blocks, frames, .list ordered (done ++ [joinPieces (Part.pieces source breaks [] parts)]) [] :: outer,
        [], "", 0, lastEnd⟩) ⟨hframes, List.cons_ne_nil _ _, rfl, rfl⟩ rfl rfl hrest
    rw [Item.writeAll, run?_append, enclose, run?_cons, hstart, Option.bind_some, hfirst, Option.bind_some,
      hothers, Item.contents, List.append_assoc, List.singleton_append]

/-- An item, up to its end: what is in the list's buffer, then the pieces. -/
theorem run?_parts : ∀ (parts : List Part) {s : State} {frames : List Frame} {ordered : Bool}
    {done : List (List Inline)} {current : List Inline} {outer : List Container} {closing : Span}
    (bare : List Inline), s.Held → s.frames = .item :: frames → frames ≠ [] →
    s.containers = .list ordered done current :: outer → s.pending = mergeTexts bare →
    Fits source (Part.writeAll parts) →
    run? source breaks s (Part.writeAll parts ++ [⟨.stop, closing⟩]) =
      some { s with
        frames := frames
        containers := .list ordered
          (done ++ [joinWithBreak current (joinPieces (Part.pieces source breaks bare parts))]) [] :: outer
        pending := [] }
  | [], s, frames, ordered, done, current, outer, closing, bare, hs, hframes, houter, hcontainers,
      hpending, _ => by
    have hclose : close? { s with rawDepth := 0, frames := frames } source .item closing.stop =
        some { s with
          frames := frames
          containers := .list ordered (done ++ [joinWithBreak current s.pending]) [] :: outer
          pending := []
          rawDepth := 0 } := by
      rw [close?, closeItem, hcontainers]
    rw [Part.writeAll, run?_closing rfl hframes (by simp [hs.rawDepth]) hclose, finishAt_of_frames,
      Part.pieces, joinPieces_cons, joinPieces_nil, joinWithBreak_nil_right, hpending, hs.rawDepth]
    exact houter
  | .phrase phrase :: rest, s, frames, ordered, done, current, outer, closing, bare, hs, hframes,
      houter, hcontainers, hpending, hfits => by
    obtain ⟨-, hrest⟩ := fits_append.mp hfits
    have hflowing : s.Flowing := ⟨hs.frames, by rw [atCode, hframes], hs.rawDepth⟩
    rw [Part.writeAll, List.append_assoc, run?_append,
      run?_phrase source breaks phrase bare hflowing hpending, Option.bind_some, Part.pieces]
    exact run?_parts rest _ ⟨hs.frames, hs.containers, hs.code, hs.rawDepth⟩ hframes houter hcontainers
      rfl hrest
  | .passage passage :: rest, s, frames, ordered, done, current, outer, closing, bare, hs, hframes,
      houter, hcontainers, hpending, hfits => by
    obtain ⟨hfirst, hrest⟩ := fits_append.mp hfits
    rw [Part.writeAll, List.append_assoc, run?_append, run?_passage passage hs hfirst, Option.bind_some,
      Part.pieces]
    split_ifs with hrule
    · exact run?_parts rest bare hs hframes houter hcontainers hpending hrest
    · let added : State := { s with
        containers := .list ordered done (joinWithBreak current
          (joinWithBreak (mergeTexts bare) (passage.content source breaks))) :: outer
        pending := [] }
      have hadded : s.flush.appendNested (passage.content source breaks) = added := by
        rw [flush_of_container hs.containers, appendNested_appendNested, hpending]
        simp [appendNested, hcontainers, added]
      have hheld : added.Held := ⟨hs.frames, List.cons_ne_nil _ _, hs.code, hs.rawDepth⟩
      rw [hadded, run?_parts rest [] hheld hframes houter rfl rfl hrest, joinPieces_cons, joinPieces_cons,
        joinWithBreak_assoc, joinWithBreak_assoc]

end

end Folio.Folding

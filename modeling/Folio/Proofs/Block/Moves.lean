import Folio.Proofs.Block.Stacks
import Folio.Proofs.Block.TopLevel
import Folio.Proofs.Inline.Within
/-!
# Everything that a step can do

A step from a state whose stacks agree does one of seven things. It moves at most the count of how deep
it is in a raw element, it adds to a code block, it adds a text or a token to what is pending, it opens
an element, it emits a rule, or it closes the innermost element. The relation `Moves` says what the state
is after each of them, so a property of steps is a case for each of the seven and the step itself is
never opened.

Closing has cases of its own. Passages all end alike: something that was collected is taken up and
placed, as a block at the top level and as content inside a container. An item moves to the items of its
list, and a span becomes one token.
-/

namespace Folio.Folding

variable {source : List Char} {breaks : Bool} {s t : State}

/-- The texts that the machine puts in by itself. -/
def ownTexts : List String :=
  [" ", "[x] ", "[ ] "]

/-- The container with more content, behind what it collects. -/
def Container.extend (content : List Inline) : Container → Container
  | .list ordered items current => .list ordered items (joinWithBreak current content)
  | .quote buffer => .quote (joinWithBreak buffer content)

namespace State

/-- What the end of a passage delivers: what is left of the state when the collected content is taken up,
that content, and the block that it is at the top level. -/
inductive Delivers (source : List Char) (stop : Nat) (s : State) :
    Frame → State → List Inline → Option Block → Prop where
  | paragraph : Delivers source stop s .paragraph { s with pending := [] } s.pending
      (if s.pending.isEmpty then none else some (.paragraph s.pending))
  | heading {depth : Nat} : Delivers source stop s (.heading depth) { s with pending := [] }
      [.strong s.pending] (some (.heading depth s.pending))
  | code : Delivers source stop s .code { s with code := "" }
      [.code (codeText s.code)] (some (.code (codeText s.code)))
  | list {ordered : Bool} {items : List (List Inline)} {current : List Inline} {outer : List Container}
      (htop : s.containers = .list ordered items current :: outer) :
      Delivers source stop s .list { s with containers := outer }
        (joinPieces items) (some (.list ordered items))
  | quote {content : List Inline} {outer : List Container} (htop : s.containers = .quote content :: outer) :
      Delivers source stop s .quote { s with containers := outer }
        content (if content.isEmpty then none else some (.quote content))
  | raw {start : Nat} {raw : List Char} (hraw : Text.slice? source start (max start stop) = some raw) :
      Delivers source stop s (.raw start) s
        [.unrecognized (some (String.ofList (Text.trim raw))) none] (some (.unrecognized (String.ofList raw)))

/-- What closing a frame does to a state from which the frame is gone. -/
inductive Closes (source : List Char) (stop : Nat) (s : State) : Frame → State → Prop where
  | passage {frame : Frame} {rest : State} {content : List Inline} {block : Option Block}
      (hdelivers : s.Delivers source stop frame rest content block) :
      Closes source stop s frame (rest.place content block)
  | item : Closes source stop s .item s.closeItem
  | span {kind : SpanKind} {before : List Inline} :
      Closes source stop s (.span kind before) { s with pending := before ++ [closeSpan kind s.pending] }

/-- Whether a blank comes before a block at `start`: where an element is open no block begins, and
elsewhere the source decides. -/
def Announces (source : List Char) (s : State) (start : Nat) (blank : Bool) : Prop :=
  (s.frames ≠ [] ∧ blank = false) ∨
    (s.frames = [] ∧ blankBefore? source s.lastEnd start = some blank)

/-- What an event may do to a state. -/
inductive Moves (source : List Char) (s : State) (e : Located) : State → Prop where
  | counted (depth : Nat) : Moves source s e { s with rawDepth := depth }
  | coded {literal : String} (hevent : e.event = .text literal) (hcode : s.atCode = true) :
      Moves source s e { s with code := s.code ++ literal }
  | texted {literal : String} (hliteral : e.event = .text literal ∨ literal ∈ ownTexts) :
      Moves source s e { s with pending := pushText s.pending literal }
  | added {token : Inline} (htext : token.isText = false) (hchildren : token.children = []) :
      Moves source s e (s.addInline token)
  | opened {tag : Tag} {blank : Bool} (hevent : e.event = .start tag) (hdepth : s.rawDepth = 0)
      (hblank : s.Announces source e.span.start blank) :
      Moves source s e (openElement { s with blocks := s.blocks ++ emitted blank none } tag e.span.start)
  | ruled {blank : Bool} (hevent : e.event = .rule) (hframes : s.frames = [])
      (hblank : s.Announces source e.span.start blank) :
      Moves source s e { s with
        blocks := s.blocks ++ emitted blank (some .rule)
        lastEnd := some e.span.stop }
  | closed {frame : Frame} {outer : List Frame} {rest : State} (hevent : e.event = .stop)
      (hframes : s.frames = frame :: outer)
      (hcloses : Closes source e.span.stop { s with rawDepth := 0, frames := outer } frame rest) :
      Moves source s e (rest.finishAt e.span.stop)

/-! ### Content that a container takes in -/

theorem appendNested_of_top {container : Container} {outer : List Container}
    (htop : s.containers = container :: outer) (content : List Inline) :
    s.appendNested content = { s with containers := container.extend content :: outer } := by
  rw [appendNested, htop]
  cases container with
  | list | quote => rfl

/-! ### Closing -/

theorem some_place (content : List Inline) (block : Block) :
    some (s.place content (some block)) =
      if s.containers.isEmpty then some (s.emit block) else some (s.appendNested content) := by
  rw [place]
  split_ifs
  · rfl
  · rfl

theorem close?_closes {frame : Frame} {stop : Nat} {outer : List ContainerKind}
    (hkinds : s.kinds = frame.kind?.toList ++ outer) (hclose : s.close? source frame stop = some t) :
    s.Closes source stop frame t := by
  cases frame with
  | paragraph =>
    obtain rfl := Option.some.inj hclose
    rw [placeContent_eq_place]
    exact .passage .paragraph
  | heading depth =>
    have hplaced := some_place (s := { s with pending := [] }) [.strong s.pending] (.heading depth s.pending)
    obtain rfl := Option.some.inj (hplaced.trans hclose)
    exact .passage .heading
  | code =>
    have hplaced := some_place (s := { s with code := "" }) [.code (codeText s.code)] (.code (codeText s.code))
    obtain rfl := Option.some.inj (hplaced.trans hclose)
    exact .passage .code
  | item =>
    obtain rfl := Option.some.inj hclose
    exact .item
  | list =>
    obtain ⟨container, rest, hcontainers, hkind, -⟩ := List.map_eq_cons_iff.mp hkinds
    cases container with
    | quote content => cases hkind
    | list ordered items current =>
      have ht : t = place { s with containers := rest } (joinPieces items) (some (.list ordered items)) := by
        rw [place, ← foldl_appendNested, ← Option.some.inj hclose, closeList, hcontainers]
        rfl
      rw [ht]
      exact .passage (.list hcontainers)
  | quote =>
    obtain ⟨container, rest, hcontainers, hkind, -⟩ := List.map_eq_cons_iff.mp hkinds
    cases container with
    | list ordered items current => cases hkind
    | quote content =>
      have ht : t = place { s with containers := rest } content
          (if content.isEmpty then none else some (.quote content)) := by
        rw [← placeContent_eq_place, ← Option.some.inj hclose, closeQuote, hcontainers]
      rw [ht]
      exact .passage (.quote hcontainers)
  | raw start =>
    obtain ⟨raw, hraw, hclose⟩ := Option.bind_eq_some_iff.mp hclose
    have hplaced := some_place (s := s) [.unrecognized (some (String.ofList (Text.trim raw))) none]
      (.unrecognized (String.ofList raw))
    obtain rfl := Option.some.inj (hplaced.trans hclose)
    exact .passage (.raw hraw)
  | span kind before =>
    obtain rfl := Option.some.inj hclose
    exact .span

theorem stop?_moves (hs : s.Aligned) {span : Span} (hstop : s.stop? source span.stop = some t) :
    s.Moves source ⟨.stop, span⟩ t := by
  by_cases hdepth : 1 < s.rawDepth
  · rw [stop?, if_pos hdepth] at hstop
    obtain rfl := Option.some.inj hstop
    exact .counted _
  rcases hframes : s.frames with _ | ⟨frame, outer⟩
  · have hcounted : s.stop? source span.stop = some { s with rawDepth := 0 } := by
      rw [stop?, if_neg hdepth]
      simp [hframes]
    rw [hcounted] at hstop
    obtain rfl := Option.some.inj hstop
    exact .counted 0
  · rw [stop?_of_frames hframes (by omega)] at hstop
    obtain ⟨rest, hclose, rfl⟩ := Option.map_eq_some_iff.mp hstop
    have hkinds : s.kinds = frame.kind?.toList ++ outer.filterMap Frame.kind? := by
      rw [hs.kinds, hframes]
      cases hkind : frame.kind? <;> simp [hkind]
    exact .closed rfl hframes (close?_closes hkinds hclose)

/-! ### Steps -/

theorem noteBlockStart?_eq_some (hframes : s.frames = []) {start : Nat}
    (hnoted : s.noteBlockStart? source start = some t) :
    ∃ blank, s.Announces source start blank ∧ t = { s with blocks := s.blocks ++ emitted blank none } := by
  obtain ⟨blank, hblank, -⟩ := Option.bind_eq_some_iff.mp hnoted
  rw [noteBlockStart?_of_blank hblank] at hnoted
  exact ⟨blank, .inr ⟨hframes, hblank⟩, (Option.some.inj hnoted).symm⟩

/-- A start may add a blank where nothing is open, and then opens its element. -/
theorem start?_eq_some {tag : Tag} {start : Nat} (hstart : s.start? source tag start = some t) :
    ∃ blank, s.Announces source start blank ∧
      t = openElement { s with blocks := s.blocks ++ emitted blank none } tag start := by
  by_cases hframes : s.frames = []
  · rw [start?, if_pos (by simp [hframes])] at hstart
    obtain ⟨noted, hnoted, hstart⟩ := Option.bind_eq_some_iff.mp hstart
    obtain ⟨blank, hblank, rfl⟩ := noteBlockStart?_eq_some hframes hnoted
    exact ⟨blank, hblank, (Option.some.inj hstart).symm⟩
  · rw [start?_of_frames hframes] at hstart
    have hkept : { s with blocks := s.blocks ++ emitted false none } = s := by simp [emitted]
    refine ⟨false, .inl ⟨hframes, rfl⟩, ?_⟩
    rw [hkept]
    exact (Option.some.inj hstart).symm

/-- A step does one of seven things. -/
theorem step?_moves (hs : s.Aligned) {e : Located} (hstep : s.step? source breaks e = some t) :
    s.Moves source e t := by
  obtain ⟨event, span⟩ := e
  by_cases hdepth : 0 < s.rawDepth
  · -- Inside a raw element events are counted or passed over.
    rw [step?, if_pos hdepth] at hstep
    cases event with
    | stop => exact stop?_moves hs hstep
    | start tag =>
      obtain rfl := Option.some.inj hstep
      exact .counted _
    | _ =>
      obtain rfl := Option.some.inj hstep
      exact .counted s.rawDepth
  · have hzero : s.rawDepth = 0 := by omega
    rw [step?, if_neg hdepth] at hstep
    cases event with
    | start tag =>
      obtain ⟨blank, hblank, rfl⟩ := start?_eq_some hstep
      exact .opened rfl hzero hblank
    | stop => exact stop?_moves hs hstep
    | text literal =>
      obtain rfl := Option.some.inj hstep
      by_cases hcode : s.atCode = true
      · rw [addText, if_pos hcode]
        exact .coded rfl hcode
      · rw [addText, if_neg hcode]
        exact .texted (.inl rfl)
    | softBreak =>
      obtain rfl := Option.some.inj hstep
      cases breaks with
      | true => exact .added rfl rfl
      | false => exact .texted (.inr (by simp [ownTexts]))
    | taskMarker checked =>
      obtain rfl := Option.some.inj hstep
      cases checked with
      | true => exact .texted (.inr (by simp [ownTexts]))
      | false => exact .texted (.inr (by simp [ownTexts]))
    | rule =>
      by_cases hframes : s.frames = []
      · dsimp only at hstep
        rw [if_pos (by simp [hframes])] at hstep
        obtain ⟨noted, hnoted, hstep⟩ := Option.bind_eq_some_iff.mp hstep
        obtain rfl := Option.some.inj hstep
        obtain ⟨blank, hblank, rfl⟩ := noteBlockStart?_eq_some hframes hnoted
        have hemitted : s.blocks ++ emitted blank none ++ [.rule] = s.blocks ++ emitted blank (some .rule) := by
          simp [emitted]
        show s.Moves source ⟨.rule, span⟩ { s with
          blocks := s.blocks ++ emitted blank none ++ [.rule]
          lastEnd := some span.stop }
        rw [hemitted]
        exact .ruled rfl hframes hblank
      · dsimp only at hstep
        rw [if_neg (by simp [hframes])] at hstep
        obtain rfl := Option.some.inj hstep
        exact .counted s.rawDepth
    | math =>
      obtain rfl := Option.some.inj hstep
      exact .counted s.rawDepth
    | _ =>
      obtain rfl := Option.some.inj hstep
      exact .added rfl rfl

end State

end Folio.Folding

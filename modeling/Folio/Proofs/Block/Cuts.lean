import Folio.Proofs.Block.Stacks
import Folio.Proofs.Block.TopLevel
/-!
# The cuts of the source

A step can fail in one way only, by cutting the source where it does not divide. Three cuts are made.
Where a block starts at the top level, the source is cut at the end of the block before, and again
between the last visible character in front of that cut and the new block. Where a raw element ends,
its source is cut out.

The offsets of a cut come from the event and from what the state remembers of earlier events: the end
of the block before and the starts of raw elements. So it is enough that every offset in the stream is a
boundary of the source. Nothing is asked about their order, because the machine takes the lesser or the
greater of two offsets before it cuts, and trimming stops at a boundary.
-/

namespace Folio.Folding

open Text (IsBoundary IsSlice)

variable {source : List Char} {breaks : Bool} {s t : State}

namespace State

/-! ### Which cuts a step makes -/

/-- The event begins a block that stands in no other element. -/
def StartsBlock (s : State) (event : Event) : Prop :=
  s.rawDepth = 0 ∧ s.frames = [] ∧ (event = .rule ∨ ∃ tag, event = .start tag)

/-- The event ends a raw element that started at `start`. -/
def EndsRaw (s : State) (event : Event) (start : Nat) : Prop :=
  event = .stop ∧ s.rawDepth ≤ 1 ∧ ∃ outer, s.frames = .raw start :: outer

/-- From where to where a step cuts the source. -/
inductive Cuts (source : List Char) (s : State) (e : Located) : Nat → Nat → Prop where
  | before {stop : Nat} (hstarts : s.StartsBlock e.event) (hlast : s.lastEnd = some stop) :
    Cuts source s e 0 (min stop e.span.start)
  | gap {stop : Nat} {before : List Char} (hstarts : s.StartsBlock e.event)
    (hlast : s.lastEnd = some stop)
    (hbefore : Text.slice? source 0 (min stop e.span.start) = some before) :
    Cuts source s e (Text.byteLength (Text.trimEnd before)) e.span.start
  | raw {start : Nat} (hends : s.EndsRaw e.event start) :
    Cuts source s e start (max start e.span.stop)

/-- The two cuts of a block's start succeed. -/
def StartCutsFit (source : List Char) (lastEnd : Option Nat) (start : Nat) : Prop :=
  ∀ stop, lastEnd = some stop → IsSlice source 0 (min stop start) ∧
    ∀ before, Text.slice? source 0 (min stop start) = some before →
      IsSlice source (Text.byteLength (Text.trimEnd before)) start

theorem forall_cuts_iff {e : Located} :
    (∀ start stop, s.Cuts source e start stop → IsSlice source start stop) ↔
      (s.StartsBlock e.event → StartCutsFit source s.lastEnd e.span.start) ∧
      (∀ start, s.EndsRaw e.event start → IsSlice source start (max start e.span.stop)) := by
  constructor
  · intro h
    refine ⟨fun hstarts stop hlast => ?_, fun start hends => h _ _ (.raw hends)⟩
    exact ⟨h _ _ (.before hstarts hlast), fun before hbefore => h _ _ (.gap hstarts hlast hbefore)⟩
  · rintro ⟨hblock, hraw⟩ start stop hcut
    cases hcut with
    | before hstarts hlast => exact (hblock hstarts _ hlast).1
    | gap hstarts hlast hbefore => exact (hblock hstarts _ hlast).2 _ hbefore
    | raw hends => exact hraw _ hends

/-! ### A step fails only at a cut -/

theorem blankBefore?_isSome_iff {lastEnd : Option Nat} {start : Nat} :
    (blankBefore? source lastEnd start).isSome ↔ StartCutsFit source lastEnd start := by
  cases lastEnd with
  | none => simp [blankBefore?, StartCutsFit]
  | some stop =>
    have hslices : StartCutsFit source (some stop) start ↔ IsSlice source 0 (min stop start) ∧
        ∀ before, Text.slice? source 0 (min stop start) = some before →
          IsSlice source (Text.byteLength (Text.trimEnd before)) start := by
      simp [StartCutsFit]
    rw [hslices, ← Text.slice?_isSome_iff, blankBefore?]
    rcases Text.slice? source 0 (min stop start) with _ | before
    · simp
    · simp [← Text.slice?_isSome_iff, Option.isSome_bind]

theorem noteBlockStart?_isSome_iff {start : Nat} :
    (s.noteBlockStart? source start).isSome ↔ StartCutsFit source s.lastEnd start := by
  rw [← blankBefore?_isSome_iff, noteBlockStart?]
  cases blankBefore? source s.lastEnd start <;> simp

theorem close?_isSome_iff {frame : Frame} {stop : Nat} :
    (s.close? source frame stop).isSome ↔
      ∀ start, frame = .raw start → IsSlice source start (max start stop) := by
  cases frame with
  | raw start =>
    rw [close?, closeRaw?]
    have hslice : (∀ first, Frame.raw start = .raw first → IsSlice source first (max first stop)) ↔
        IsSlice source start (max start stop) := by simp
    rw [hslice, ← Text.slice?_isSome_iff]
    rcases Text.slice? source start (max start stop) with _ | raw
    · simp
    · cases s.containers.isEmpty <;> simp
  | heading | code =>
    rw [close?]
    cases s.containers.isEmpty <;> simp
  | _ => simp [close?]

theorem stop?_isSome_iff {span : Span} :
    (s.stop? source span.stop).isSome ↔
      ∀ start, s.EndsRaw .stop start → IsSlice source start (max start span.stop) := by
  by_cases hdepth : 1 < s.rawDepth
  · rw [stop?, if_pos hdepth]
    refine iff_of_true rfl fun start hends => ?_
    exact absurd hends.2.1 (by omega)
  · rcases hframes : s.frames with _ | ⟨frame, outer⟩
    · simp [stop?, hdepth, hframes, EndsRaw]
    · rw [stop?_of_frames hframes (by omega), Option.isSome_map, close?_isSome_iff]
      have hdepth' : s.rawDepth ≤ 1 := by omega
      simp [EndsRaw, hframes, hdepth']

/-- A step gives a state exactly if all its cuts are slices of the source. -/
theorem step?_isSome_iff {e : Located} :
    (s.step? source breaks e).isSome ↔
      ∀ start stop, s.Cuts source e start stop → IsSlice source start stop := by
  obtain ⟨event, span⟩ := e
  rw [forall_cuts_iff]
  by_cases hdepth : 0 < s.rawDepth
  · have hstarts : ¬ s.StartsBlock event := fun h => absurd h.1 (by omega)
    cases event with
    | stop =>
      rw [step?_stop, stop?_isSome_iff]
      exact ⟨fun h => ⟨fun hblock => absurd hblock hstarts, h⟩, fun h => h.2⟩
    | _ => simp [step?, hdepth, hstarts, EndsRaw]
  · have hzero : s.rawDepth = 0 := by omega
    cases event with
    | stop =>
      have hstarts : ¬ s.StartsBlock .stop := by simp [StartsBlock]
      rw [step?_stop, stop?_isSome_iff]
      exact ⟨fun h => ⟨fun hblock => absurd hblock hstarts, h⟩, fun h => h.2⟩
    | start tag =>
      rw [step?_start hzero, start?]
      by_cases hframes : s.frames = []
      · have hstarts : s.StartsBlock (.start tag) := ⟨hzero, hframes, .inr ⟨tag, rfl⟩⟩
        simp [hframes, hstarts, EndsRaw, ← noteBlockStart?_isSome_iff, Option.isSome_bind]
      · simp [hframes, StartsBlock, EndsRaw]
    | rule =>
      by_cases hframes : s.frames = []
      · have hstarts : s.StartsBlock .rule := ⟨hzero, hframes, .inl rfl⟩
        simp [step?, hzero, hframes, hstarts, EndsRaw, ← noteBlockStart?_isSome_iff, Option.isSome_bind]
      · simp [step?, hzero, hframes, StartsBlock, EndsRaw]
    | _ => simp [step?, hzero, StartsBlock, EndsRaw]

/-! ### What a state remembers of the source -/

/-- Every offset that the state keeps for later is a boundary of the source. -/
structure Anchored (source : List Char) (s : State) : Prop where
  lastEnd : s.EndFits source
  raw : ∀ start, .raw start ∈ s.frames → IsBoundary source start

@[simp] theorem appendNested_lastEnd (content : List Inline) :
    (s.appendNested content).lastEnd = s.lastEnd := by
  unfold appendNested
  split <;> rfl

@[simp] theorem flush_lastEnd : s.flush.lastEnd = s.lastEnd := by
  unfold flush
  split_ifs
  · rfl
  · exact appendNested_lastEnd _

@[simp] theorem placeContent_lastEnd (content : List Inline) (block : List Inline → Block) :
    (s.placeContent content block).lastEnd = s.lastEnd := by
  unfold placeContent
  split_ifs
  · exact appendNested_lastEnd content
  · rfl
  · rfl

theorem closeList_lastEnd : s.closeList.lastEnd = s.lastEnd := by
  unfold closeList
  split
  · dsimp only
    split_ifs
    · rfl
    · rw [foldl_appendNested, appendNested_lastEnd]
  · rfl
  · rfl

/-- Where the block before ended is no business of the elements that close. -/
theorem close?_lastEnd {frame : Frame} {stop : Nat} (hclose : s.close? source frame stop = some t) :
    t.lastEnd = s.lastEnd := by
  cases frame with
  | paragraph =>
    obtain rfl := Option.some.inj hclose
    exact placeContent_lastEnd _ _
  | heading | code =>
    rw [close?] at hclose
    split_ifs at hclose <;> obtain rfl := Option.some.inj hclose
    · rfl
    · exact appendNested_lastEnd _
  | list =>
    obtain rfl := Option.some.inj hclose
    exact closeList_lastEnd
  | item =>
    obtain rfl := Option.some.inj hclose
    unfold closeItem
    split <;> rfl
  | quote =>
    obtain rfl := Option.some.inj hclose
    unfold closeQuote
    split
    · exact placeContent_lastEnd _ _
    · rfl
    · rfl
  | raw start =>
    obtain ⟨raw, -, hclose⟩ := Option.bind_eq_some_iff.mp hclose
    split_ifs at hclose <;> obtain rfl := Option.some.inj hclose
    · rfl
    · exact appendNested_lastEnd _
  | span kind before =>
    obtain rfl := Option.some.inj hclose
    rfl

/-- An element that opens remembers its own start or none. -/
theorem openElement_keeps (tag : Tag) (start : Nat) :
    (s.openElement tag start).lastEnd = s.lastEnd ∧
      ∃ frame, (s.openElement tag start).frames = frame :: s.frames ∧
        ∀ first, frame = .raw first → first = start := by
  cases tag with
  | htmlBlock | table | footnoteDefinition =>
    refine ⟨flush_lastEnd, .raw start, congrArg (Frame.raw start :: ·) flush_frames, ?_⟩
    rintro first ⟨⟩
    rfl
  | paragraph | heading level | codeBlock | list number | quote =>
    refine ⟨flush_lastEnd, _, congrArg (_ :: ·) flush_frames, ?_⟩
    rintro first ⟨⟩
  | _ =>
    refine ⟨rfl, _, rfl, ?_⟩
    rintro first ⟨⟩

theorem Anchored.of_eq (hs : s.Anchored source) (hlast : t.lastEnd = s.lastEnd)
    (hframes : t.frames = s.frames) : t.Anchored source where
  lastEnd := by
    rw [EndFits, hlast]
    exact hs.lastEnd
  raw := by
    rw [hframes]
    exact hs.raw

theorem Anchored.finish (hs : s.Anchored source) {stop : Nat} (hstop : IsBoundary source stop) :
    Anchored source { s with lastEnd := some stop } where
  lastEnd := by
    rintro last ⟨⟩
    exact hstop
  raw := hs.raw

theorem noteBlockStart?_anchored (hs : s.Anchored source) {start : Nat}
    (hnoted : s.noteBlockStart? source start = some t) : t.Anchored source := by
  obtain ⟨blank, -, hnoted⟩ := Option.bind_eq_some_iff.mp hnoted
  obtain rfl := Option.some.inj hnoted
  cases blank
  · exact hs
  · exact hs.of_eq rfl rfl

theorem start?_anchored (hs : s.Anchored source) {tag : Tag} {start : Nat}
    (hfits : IsBoundary source start) (hstart : s.start? source tag start = some t) :
    t.Anchored source := by
  have hnoted : ∃ noted : State, noted.Anchored source ∧ t = noted.openElement tag start := by
    rw [start?] at hstart
    split_ifs at hstart
    · obtain ⟨noted, hnoted, hstart⟩ := Option.bind_eq_some_iff.mp hstart
      exact ⟨noted, noteBlockStart?_anchored hs hnoted, (Option.some.inj hstart).symm⟩
    · exact ⟨s, hs, (Option.some.inj hstart).symm⟩
  obtain ⟨noted, hanchored, rfl⟩ := hnoted
  obtain ⟨hlast, frame, hframes, hown⟩ := openElement_keeps (s := noted) tag start
  refine ⟨?_, fun first hmem => ?_⟩
  · rw [EndFits, hlast]
    exact hanchored.lastEnd
  · rw [hframes] at hmem
    rcases List.mem_cons.mp hmem with heq | hmem
    · rw [hown first heq.symm]
      exact hfits
    · exact hanchored.raw first hmem

theorem stop?_anchored (hs : s.Anchored source) {stop : Nat} (hfits : IsBoundary source stop)
    (hstop : s.stop? source stop = some t) : t.Anchored source := by
  rw [stop?] at hstop
  split_ifs at hstop with hdepth
  · obtain rfl := Option.some.inj hstop
    exact hs.of_eq rfl rfl
  rcases hframes : s.frames with _ | ⟨frame, outer⟩
  · simp only [hframes] at hstop
    obtain rfl := Option.some.inj hstop
    exact hs.of_eq rfl hframes.symm
  · simp only [hframes] at hstop
    obtain ⟨closed, hclose, hfinish⟩ := Option.bind_eq_some_iff.mp hstop
    have hclosed : closed.Anchored source := by
      refine ⟨?_, fun start hmem => hs.raw start ?_⟩
      · rw [EndFits, close?_lastEnd hclose]
        exact hs.lastEnd
      · rw [close?_frames hclose] at hmem
        rw [hframes]
        exact List.mem_cons_of_mem frame hmem
    obtain rfl := Option.some.inj hfinish
    split_ifs
    · exact hclosed.finish hfits
    · exact hclosed

/-- What is remembered after a step comes from before it or from the range of its event. -/
theorem step?_anchored (hs : s.Anchored source) {e : Located} (hfits : e.span.Fits source)
    (hstep : s.step? source breaks e = some t) : t.Anchored source := by
  obtain ⟨event, span⟩ := e
  by_cases hdepth : 0 < s.rawDepth
  · rw [step?, if_pos hdepth] at hstep
    cases event with
    | stop => exact stop?_anchored hs hfits.2 hstep
    | _ =>
      obtain rfl := Option.some.inj hstep
      exact hs.of_eq rfl rfl
  · rw [step?, if_neg hdepth] at hstep
    cases event with
    | start tag => exact start?_anchored hs hfits.1 hstep
    | stop => exact stop?_anchored hs hfits.2 hstep
    | rule =>
      dsimp only at hstep
      split_ifs at hstep
      · obtain ⟨noted, hnoted, hstep⟩ := Option.bind_eq_some_iff.mp hstep
        obtain rfl := Option.some.inj hstep
        have hemitted : (noted.emit .rule).Anchored source :=
          (noteBlockStart?_anchored hs hnoted).of_eq rfl rfl
        exact hemitted.finish hfits.2
      · obtain rfl := Option.some.inj hstep
        exact hs
    | text literal =>
      obtain rfl := Option.some.inj hstep
      unfold addText
      split_ifs <;> exact hs.of_eq rfl rfl
    | softBreak =>
      obtain rfl := Option.some.inj hstep
      split_ifs <;> exact hs.of_eq rfl rfl
    | _ =>
      obtain rfl := Option.some.inj hstep
      exact hs.of_eq rfl rfl

/-! ### Every cut is a slice -/

/-- Between remembered offsets and those of the event all cuts succeed, in whatever order they stand. -/
theorem Anchored.isSlice_of_cuts (hs : s.Anchored source) {e : Located} (hfits : e.span.Fits source) :
    ∀ start stop, s.Cuts source e start stop → IsSlice source start stop := by
  rw [forall_cuts_iff]
  constructor
  · intro _
    rw [← blankBefore?_isSome_iff]
    exact Option.isSome_iff_exists.mpr (blankBefore?_isSome hs.lastEnd hfits.1)
  · rintro start ⟨-, -, outer, hframes⟩
    have hstart : IsBoundary source start := hs.raw start (by simp [hframes])
    exact hstart.isSlice (Text.isBoundary_max hstart hfits.2) (Nat.le_max_left _ _)

/-- A step from remembered boundaries does not fail. -/
theorem Anchored.step?_isSome (hs : s.Anchored source) {e : Located} (hfits : e.span.Fits source) :
    ∃ next, s.step? source breaks e = some next ∧ next.Anchored source := by
  have hsome : (s.step? source breaks e).isSome :=
    step?_isSome_iff.mpr (hs.isSlice_of_cuts hfits)
  obtain ⟨next, hnext⟩ := Option.isSome_iff_exists.mp hsome
  exact ⟨next, hnext, step?_anchored hs hfits hnext⟩

/-! ### The raw depth -/

/-- A stop takes one from a positive depth and leaves a depth of zero. -/
theorem Aligned.rawDepth_of_stop (hs : s.Aligned) {stop : Nat} (hstop : s.stop? source stop = some t) :
    (0 < s.rawDepth → t.rawDepth + 1 = s.rawDepth) ∧ (s.rawDepth = 0 → t.rawDepth = 0) := by
  rcases stop?_cases hs hstop with ⟨hdepth, rfl⟩ | ⟨hframes, rfl⟩ | ⟨hdepth, frame, hframes, -, hzero⟩
  · exact ⟨fun h => Nat.sub_add_cancel h, fun h => absurd h (by omega)⟩
  · have hraw : ¬ 0 < s.rawDepth := by
      rw [hs.raw, hframes]
      simp
    exact ⟨fun h => absurd h hraw, fun _ => rfl⟩
  · exact ⟨fun h => by omega, fun _ => hzero⟩

/-- Only a stop makes the depth less. -/
theorem rawDepth_le_of_step? {e : Located} (hstep : s.step? source breaks e = some t)
    (hevent : e.event ≠ .stop) : s.rawDepth ≤ t.rawDepth := by
  rcases Nat.eq_zero_or_pos s.rawDepth with hzero | hdepth
  · rw [hzero]
    exact Nat.zero_le _
  · obtain ⟨event, span⟩ := e
    rw [step?, if_pos hdepth] at hstep
    cases event with
    | stop => exact absurd rfl hevent
    | start tag =>
      obtain rfl := Option.some.inj hstep
      exact Nat.le_succ _
    | _ =>
      obtain rfl := Option.some.inj hstep
      exact Nat.le_refl _

end State

/-! ### Runs -/

theorem initial_anchored (source : List Char) : State.Anchored source {} :=
  ⟨by rintro stop ⟨⟩, by simp⟩

theorem run?_anchored {events : List Located} (hs : s.Anchored source) (hfits : Fits source events) :
    ∃ final, run? source breaks s events = some final ∧ final.Anchored source := by
  induction events generalizing s with
  | nil => exact ⟨s, rfl, hs⟩
  | cons e events ih =>
    have hstepped : ∃ next, s.step? source breaks e = some next ∧ next.Anchored source :=
      hs.step?_isSome (hfits e List.mem_cons_self)
    obtain ⟨next, hstep, hnext⟩ := hstepped
    obtain ⟨final, hrun, hfinal⟩ := ih hnext fun later hmem => hfits later (List.mem_cons_of_mem e hmem)
    refine ⟨final, ?_, hfinal⟩
    rw [run?_cons, hstep, Option.bind_some, hrun]

/-- **No stream makes the machine fail.** Of a stream it is only asked that the two ends of every range
are boundaries of the source; the stream need not be balanced, and ranges may overlap, go backwards or
end before they start. Then each step finds a state, all cuts that it makes are slices of the source, and
the raw depth is taken down by one, and only where it is positive, or not at all. -/
theorem run?_cuts_fit (source : List Char) (dialect : Dialect) {events : List Located}
    (hfits : Fits source events) :
    (∃ final, run? source dialect.breaks {} events = some final) ∧
    ∀ before e after, events = before ++ e :: after →
      ∃ s next, run? source dialect.breaks {} before = some s ∧
        s.step? source dialect.breaks e = some next ∧
        (∀ start stop, s.Cuts source e start stop → IsSlice source start stop) ∧
        (e.event = .stop → (0 < s.rawDepth → next.rawDepth + 1 = s.rawDepth) ∧
          (s.rawDepth = 0 → next.rawDepth = 0)) ∧
        (e.event ≠ .stop → s.rawDepth ≤ next.rawDepth) := by
  have hruns : ∀ {events : List Located}, Fits source events →
      ∃ final, run? source dialect.breaks {} events = some final ∧ final.Anchored source :=
    fun hfits => run?_anchored (initial_anchored source) hfits
  constructor
  · obtain ⟨final, hrun, -⟩ := hruns hfits
    exact ⟨final, hrun⟩
  · rintro before e after rfl
    obtain ⟨hbefore, hrest⟩ := fits_append.mp hfits
    have hspan : e.span.Fits source := hrest e List.mem_cons_self
    obtain ⟨s, hrun, hanchored⟩ := hruns hbefore
    have hstepped : ∃ next, s.step? source dialect.breaks e = some next ∧ next.Anchored source :=
      hanchored.step?_isSome hspan
    obtain ⟨next, hstep, -⟩ := hstepped
    have haligned : s.Aligned := run?_aligned initial_aligned hrun
    refine ⟨s, next, hrun, hstep, hanchored.isSlice_of_cuts hspan, ?_, ?_⟩
    · intro hevent
      obtain ⟨event, span⟩ := e
      obtain rfl : event = .stop := hevent
      rw [State.step?_stop] at hstep
      exact haligned.rawDepth_of_stop hstep
    · intro hevent
      exact State.rawDepth_le_of_step? hstep hevent

/-- A rule whose range ends before it starts, then a raw element that ends before it starts, with a wide
space in front of the gap between the two. -/
theorem run?_cuts_fit_backwards :
    let source := "é\u3000\n\n<b>".toList
    let opening : Located := ⟨.start .htmlBlock, ⟨7, 10⟩⟩
    let events : List Located := [⟨.rule, ⟨7, 5⟩⟩, opening, ⟨.stop, ⟨0, 2⟩⟩, ⟨.stop, ⟨10, 0⟩⟩]
    Fits source events ∧ (∃ final, run? source false {} events = some final) ∧
      ∃ s next, run? source false {} [⟨.rule, ⟨7, 5⟩⟩] = some s ∧ s.step? source false opening = some next ∧
        s.Cuts source opening 2 7 ∧ IsSlice source 2 7 := by
  intro source opening events
  have hfits : Fits source events := by decide
  obtain ⟨hfinal, hsteps⟩ := run?_cuts_fit source {} hfits
  refine ⟨hfits, hfinal, ?_⟩
  obtain ⟨s, next, hrun, hstep, hcuts, -⟩ := hsteps [⟨.rule, ⟨7, 5⟩⟩] opening _ rfl
  have hs : s = { blocks := [.rule], lastEnd := some 5 } := Option.some.inj (hrun.symm.trans rfl)
  have hgap : s.Cuts source opening 2 7 := by
    have hbefore : Text.slice? source 0 (min 5 opening.span.start) = some ['é', '\u3000'] := rfl
    rw [hs]
    exact .gap ⟨rfl, rfl, .inr ⟨_, rfl⟩⟩ rfl hbefore
  exact ⟨s, next, hrun, hstep, hgap, hcuts 2 7 hgap⟩

end Folio.Folding

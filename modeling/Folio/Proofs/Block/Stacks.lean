import Folio.Proofs.Block.Steps
/-!
# The two stacks

The machine keeps its open elements on one stack and the lists and quotes among them on another, and it
counts how deep it is in a raw element. Tags decide what is pushed and frames decide what is popped, so
nothing but an invariant keeps the three together: the containers are the lists and quotes among the
frames, in order, and the count is positive exactly while the innermost frame is raw.

Every start pushes one frame, with its container if it has one, and every stop pops one frame, with its
container, or only counts down. That holds for any stream, balanced or not.
-/

namespace Folio.Folding

inductive ContainerKind where
  | list
  | quote
deriving DecidableEq, Repr

def Container.kind : Container → ContainerKind
  | .list .. => .list
  | .quote _ => .quote

/-- The kind of the container that a frame stands for; only lists and quotes have one. -/
def Frame.kind? : Frame → Option ContainerKind
  | .list => some .list
  | .quote => some .quote
  | .paragraph | .heading _ | .code | .item | .raw _ | .span .. => none

def Frame.isRaw : Frame → Bool
  | .raw _ => true
  | _ => false

theorem Frame.isRaw_eq_true {frame : Frame} : frame.isRaw = true ↔ ∃ start, frame = .raw start := by
  cases frame <;> simp [isRaw]

namespace State

variable {source : List Char} {breaks : Bool} {s t : State}

def kinds (s : State) : List ContainerKind :=
  s.containers.map Container.kind

/-- The containers are the lists and quotes among the frames; the raw depth is positive exactly if the
innermost frame is raw, and no other frame is. -/
structure Aligned (s : State) : Prop where
  kinds : s.kinds = s.frames.filterMap Frame.kind?
  raw : 0 < s.rawDepth ↔ ∃ start outer, s.frames = .raw start :: outer
  outer : ∀ frame ∈ s.frames.tail, frame.isRaw = false

/-! ### What operations do to the kinds -/

@[simp] theorem appendNested_kinds (content : List Inline) : (s.appendNested content).kinds = s.kinds := by
  unfold appendNested
  split <;> simp_all [State.kinds, Container.kind]

@[simp] theorem flush_kinds : s.flush.kinds = s.kinds := by
  unfold flush
  split_ifs
  · rfl
  · exact appendNested_kinds _

@[simp] theorem flush_frames : s.flush.frames = s.frames := by
  unfold flush
  split_ifs
  · rfl
  · exact appendNested_frames _

@[simp] theorem flush_rawDepth : s.flush.rawDepth = s.rawDepth := by
  unfold flush
  split_ifs
  · rfl
  · exact appendNested_rawDepth _

/-! ### Starts -/

/-- A frame is pushed, with its container if it has one, and the count begins if it is raw. -/
structure Pushed (s : State) (frame : Frame) (t : State) : Prop where
  frames : t.frames = frame :: s.frames
  kinds : t.kinds = frame.kind?.toList ++ s.kinds
  rawDepth : t.rawDepth = if frame.isRaw then 1 else s.rawDepth

theorem openBlock_pushed {frame : Frame} (hkind : frame.kind? = none) (hraw : frame.isRaw = false) :
    s.Pushed frame (s.openBlock frame) where
  frames := by simp [openBlock]
  kinds := by
    rw [hkind]
    exact flush_kinds
  rawDepth := by
    rw [hraw]
    exact flush_rawDepth

theorem openContainer_pushed {frame : Frame} {container : Container}
    (hkind : frame.kind? = some container.kind) (hraw : frame.isRaw = false) :
    s.Pushed frame (s.openContainer frame container) where
  frames := by simp [openContainer]
  kinds := by
    rw [hkind]
    exact congrArg (container.kind :: ·) flush_kinds
  rawDepth := by
    rw [hraw]
    exact flush_rawDepth

theorem openRaw_pushed (start : Nat) : s.Pushed (.raw start) (s.openRaw start) where
  frames := by simp [openRaw]
  kinds := flush_kinds
  rawDepth := rfl

theorem openElement_pushed (tag : Tag) (start : Nat) :
    ∃ frame, s.Pushed frame (s.openElement tag start) := by
  cases tag with
  | paragraph => exact ⟨.paragraph, openBlock_pushed rfl rfl⟩
  | heading level => exact ⟨.heading level, openBlock_pushed rfl rfl⟩
  | codeBlock =>
    have hpushed : s.Pushed .code (s.openBlock .code) := openBlock_pushed rfl rfl
    exact ⟨.code, hpushed.frames, hpushed.kinds, hpushed.rawDepth⟩
  | list number => exact ⟨.list, openContainer_pushed rfl rfl⟩
  | quote => exact ⟨.quote, openContainer_pushed rfl rfl⟩
  | htmlBlock | table | footnoteDefinition => exact ⟨.raw start, openRaw_pushed start⟩
  | item => exact ⟨.item, rfl, rfl, rfl⟩
  | _ => exact ⟨.span _ s.pending, rfl, rfl, rfl⟩

theorem Aligned.of_eq (hs : s.Aligned) (hframes : t.frames = s.frames)
    (hcontainers : t.containers = s.containers) (hdepth : t.rawDepth = s.rawDepth) : t.Aligned where
  kinds := by rw [State.kinds, hcontainers, hframes, ← hs.kinds, State.kinds]
  raw := by rw [hdepth, hframes, hs.raw]
  outer := by
    rw [hframes]
    exact hs.outer

/-- Outside a raw element no frame is raw. -/
theorem Aligned.isRaw_eq_false (hs : s.Aligned) (hdepth : s.rawDepth = 0) :
    ∀ frame ∈ s.frames, frame.isRaw = false := by
  intro frame hmem
  rcases hframes : s.frames with _ | ⟨inner, outer⟩
  · simp [hframes] at hmem
  rw [hframes] at hmem
  rcases List.mem_cons.mp hmem with rfl | hmem
  · refine Bool.eq_false_iff.mpr fun hraw => ?_
    obtain ⟨start, rfl⟩ := Frame.isRaw_eq_true.mp hraw
    have hpositive : 0 < s.rawDepth := hs.raw.mpr ⟨start, outer, hframes⟩
    omega
  · exact hs.outer frame (by rwa [hframes])

theorem Aligned.push (hs : s.Aligned) (hdepth : s.rawDepth = 0) {frame : Frame}
    (hpushed : s.Pushed frame t) : t.Aligned where
  kinds := by
    rw [hpushed.kinds, hpushed.frames, hs.kinds]
    cases hkind : frame.kind? <;> simp [hkind]
  raw := by
    rw [hpushed.rawDepth, hpushed.frames, hdepth]
    cases frame <;> simp [Frame.isRaw]
  outer := by
    rw [hpushed.frames, List.tail_cons]
    exact hs.isRaw_eq_false hdepth

theorem noteBlockStart?_aligned (hs : s.Aligned) {start : Nat}
    (hnoted : s.noteBlockStart? source start = some t) : t.Aligned ∧ t.rawDepth = s.rawDepth := by
  obtain ⟨blank, -, hnoted⟩ := Option.bind_eq_some_iff.mp hnoted
  obtain rfl := Option.some.inj hnoted
  cases blank
  · exact ⟨hs, rfl⟩
  · exact ⟨hs.of_eq rfl rfl rfl, rfl⟩

theorem start?_aligned (hs : s.Aligned) (hdepth : s.rawDepth = 0) {tag : Tag} {start : Nat}
    (hstart : s.start? source tag start = some t) : t.Aligned := by
  rw [start?] at hstart
  have hnoted : ∃ noted : State, noted.Aligned ∧ noted.rawDepth = 0 ∧ t = noted.openElement tag start := by
    split_ifs at hstart
    · obtain ⟨noted, hnoted, hstart⟩ := Option.bind_eq_some_iff.mp hstart
      obtain ⟨haligned, hkept⟩ := noteBlockStart?_aligned hs hnoted
      exact ⟨noted, haligned, hkept.trans hdepth, (Option.some.inj hstart).symm⟩
    · exact ⟨s, hs, hdepth, (Option.some.inj hstart).symm⟩
  obtain ⟨noted, haligned, hzero, rfl⟩ := hnoted
  obtain ⟨frame, hpushed⟩ := openElement_pushed (s := noted) tag start
  exact haligned.push hzero hpushed

/-! ### Stops -/

@[simp] theorem placeContent_kinds (content : List Inline) (block : List Inline → Block) :
    (s.placeContent content block).kinds = s.kinds := by
  unfold placeContent
  split_ifs
  · exact appendNested_kinds content
  · rfl
  · rfl

@[simp] theorem placeContent_rawDepth (content : List Inline) (block : List Inline → Block) :
    (s.placeContent content block).rawDepth = s.rawDepth := by
  unfold placeContent
  split_ifs
  · exact appendNested_rawDepth content
  · rfl
  · rfl

theorem closeItem_kinds : s.closeItem.kinds = s.kinds := by
  unfold closeItem
  split <;> simp_all [State.kinds, Container.kind]

theorem closeList_kinds {outer : List ContainerKind} (hkinds : s.kinds = .list :: outer) :
    s.closeList.kinds = outer ∧ s.closeList.rawDepth = s.rawDepth := by
  obtain ⟨_, _, containers, _, _, _, _⟩ := s
  rcases containers with _ | ⟨_ | _, rest⟩
  · cases hkinds
  · obtain rfl := (List.cons.inj hkinds).2
    simp only [closeList]
    split_ifs
    · exact ⟨rfl, rfl⟩
    · rw [foldl_appendNested, appendNested_kinds, appendNested_rawDepth]
      exact ⟨rfl, rfl⟩
  · exact absurd (List.cons.inj hkinds).1 (by simp [Container.kind])

theorem closeQuote_kinds {outer : List ContainerKind} (hkinds : s.kinds = .quote :: outer) :
    s.closeQuote.kinds = outer ∧ s.closeQuote.rawDepth = s.rawDepth := by
  obtain ⟨_, _, containers, _, _, _, _⟩ := s
  rcases containers with _ | ⟨_ | _, rest⟩
  · cases hkinds
  · exact absurd (List.cons.inj hkinds).1 (by simp [Container.kind])
  · obtain rfl := (List.cons.inj hkinds).2
    simp only [closeQuote]
    rw [placeContent_kinds, placeContent_rawDepth]
    exact ⟨rfl, rfl⟩

/-- Closing a frame takes its container away, if it has one, and no other. -/
theorem close?_kinds {frame : Frame} {stop : Nat} {outer : List ContainerKind}
    (hkinds : s.kinds = frame.kind?.toList ++ outer) (hclose : s.close? source frame stop = some t) :
    t.kinds = outer ∧ t.rawDepth = s.rawDepth := by
  cases frame with
  | paragraph =>
    obtain rfl := Option.some.inj hclose
    rw [placeContent_kinds, placeContent_rawDepth]
    exact ⟨hkinds, rfl⟩
  | heading | code =>
    rw [close?] at hclose
    split_ifs at hclose <;> obtain rfl := Option.some.inj hclose
    · exact ⟨hkinds, rfl⟩
    · rw [appendNested_kinds, appendNested_rawDepth]
      exact ⟨hkinds, rfl⟩
  | list =>
    obtain rfl := Option.some.inj hclose
    exact closeList_kinds hkinds
  | item =>
    obtain rfl := Option.some.inj hclose
    refine ⟨closeItem_kinds.trans hkinds, ?_⟩
    unfold closeItem
    split <;> rfl
  | quote =>
    obtain rfl := Option.some.inj hclose
    exact closeQuote_kinds hkinds
  | raw start =>
    obtain ⟨raw, -, hclose⟩ := Option.bind_eq_some_iff.mp hclose
    split_ifs at hclose <;> obtain rfl := Option.some.inj hclose
    · exact ⟨hkinds, rfl⟩
    · rw [appendNested_kinds, appendNested_rawDepth]
      exact ⟨hkinds, rfl⟩
  | span kind before =>
    obtain rfl := Option.some.inj hclose
    exact ⟨hkinds, rfl⟩

/-- A stop counts down inside a raw element, and elsewhere pops the innermost frame and its container. -/
theorem stop?_cases (hs : s.Aligned) {stop : Nat} (hstop : s.stop? source stop = some t) :
    (1 < s.rawDepth ∧ t = { s with rawDepth := s.rawDepth - 1 }) ∨
    (s.frames = [] ∧ t = { s with rawDepth := 0 }) ∨
    (s.rawDepth ≤ 1 ∧ ∃ frame, s.frames = frame :: t.frames ∧
      t.kinds = t.frames.filterMap Frame.kind? ∧ t.rawDepth = 0) := by
  rw [stop?] at hstop
  split_ifs at hstop with hdepth
  · exact .inl ⟨hdepth, (Option.some.inj hstop).symm⟩
  rcases hframes : s.frames with _ | ⟨frame, outer⟩
  · simp only [hframes] at hstop
    exact .inr (.inl ⟨rfl, (Option.some.inj hstop).symm⟩)
  · simp only [hframes] at hstop
    obtain ⟨closed, hclose, hfinish⟩ := Option.bind_eq_some_iff.mp hstop
    have hkinds : s.kinds = frame.kind?.toList ++ outer.filterMap Frame.kind? := by
      rw [hs.kinds, hframes]
      cases hkind : frame.kind? <;> simp [hkind]
    have hkept := close?_kinds (s := { s with rawDepth := 0, frames := outer }) hkinds hclose
    have hclosed : closed.frames = outer := close?_frames hclose
    obtain rfl := Option.some.inj hfinish
    refine .inr (.inr ⟨by omega, frame, ?_⟩)
    split_ifs
    · exact ⟨by rw [hclosed], by rw [hclosed]; exact hkept⟩
    · exact ⟨by rw [hclosed], by rw [hclosed]; exact hkept⟩

theorem stop?_aligned (hs : s.Aligned) {stop : Nat} (hstop : s.stop? source stop = some t) :
    t.Aligned := by
  rcases stop?_cases hs hstop with ⟨hdepth, rfl⟩ | ⟨hframes, rfl⟩ | ⟨-, frame, hframes, hkinds, hdepth⟩
  · have hpositive : 0 < s.rawDepth - 1 ↔ 0 < s.rawDepth := by omega
    exact ⟨hs.kinds, hpositive.trans hs.raw, hs.outer⟩
  · exact ⟨hs.kinds, by simp [hframes], hs.outer⟩
  · have houter : ∀ inner ∈ t.frames, inner.isRaw = false := by simpa [hframes] using hs.outer
    refine ⟨hkinds, ?_, fun inner hmem => houter inner (List.mem_of_mem_tail hmem)⟩
    rw [hdepth]
    refine ⟨fun h => absurd h (Nat.lt_irrefl 0), ?_⟩
    rintro ⟨start, rest, hraw⟩
    exact absurd (houter (.raw start) (by simp [hraw])) (by simp [Frame.isRaw])

/-! ### The container of the innermost frame -/

/-- A frame that stands for a container finds one of its kind on top. -/
theorem Aligned.container_of_frames (hs : s.Aligned) {frame : Frame} {outer : List Frame}
    {kind : ContainerKind} (hframes : s.frames = frame :: outer) (hkind : frame.kind? = some kind) :
    ∃ container rest, s.containers = container :: rest ∧ container.kind = kind := by
  have hkinds : s.containers.map Container.kind = kind :: outer.filterMap Frame.kind? := by
    rw [← State.kinds, hs.kinds, hframes, List.filterMap_cons_some hkind]
  obtain ⟨container, rest, hcontainers, hfound, -⟩ := List.map_eq_cons_iff.mp hkinds
  exact ⟨container, rest, hcontainers, hfound⟩

theorem Aligned.list_of_frames (hs : s.Aligned) {outer : List Frame} (hframes : s.frames = .list :: outer) :
    ∃ ordered items current rest, s.containers = .list ordered items current :: rest := by
  obtain ⟨container, rest, hcontainers, hkind⟩ := hs.container_of_frames hframes rfl
  cases container with
  | list ordered items current => exact ⟨ordered, items, current, rest, hcontainers⟩
  | quote content => cases hkind

theorem Aligned.quote_of_frames (hs : s.Aligned) {outer : List Frame}
    (hframes : s.frames = .quote :: outer) : ∃ content rest, s.containers = .quote content :: rest := by
  obtain ⟨container, rest, hcontainers, hkind⟩ := hs.container_of_frames hframes rfl
  cases container with
  | list ordered items current => cases hkind
  | quote content => exact ⟨content, rest, hcontainers⟩

/-! ### Steps and runs -/

theorem step?_aligned (hs : s.Aligned) {e : Located} (hstep : s.step? source breaks e = some t) :
    t.Aligned := by
  obtain ⟨event, span⟩ := e
  rw [step?] at hstep
  by_cases hdepth : 0 < s.rawDepth
  · -- Inside a raw element only the count moves, and it stays positive.
    rw [if_pos hdepth] at hstep
    cases event with
    | stop => exact stop?_aligned hs hstep
    | start tag =>
      obtain rfl := Option.some.inj hstep
      exact ⟨hs.kinds, by simpa using hs.raw.mp hdepth, hs.outer⟩
    | _ =>
      obtain rfl := Option.some.inj hstep
      exact hs
  · rw [if_neg hdepth] at hstep
    cases event with
    | start tag => exact start?_aligned hs (Nat.eq_zero_of_not_pos hdepth) hstep
    | stop => exact stop?_aligned hs hstep
    | rule =>
      dsimp only at hstep
      split_ifs at hstep
      · obtain ⟨noted, hnoted, hstep⟩ := Option.bind_eq_some_iff.mp hstep
        obtain rfl := Option.some.inj hstep
        exact (noteBlockStart?_aligned hs hnoted).1.of_eq rfl rfl rfl
      · obtain rfl := Option.some.inj hstep
        exact hs
    | text literal =>
      obtain rfl := Option.some.inj hstep
      unfold addText
      split_ifs <;> exact hs.of_eq rfl rfl rfl
    | softBreak =>
      obtain rfl := Option.some.inj hstep
      split_ifs <;> exact hs.of_eq rfl rfl rfl
    | _ =>
      obtain rfl := Option.some.inj hstep
      exact hs.of_eq rfl rfl rfl

end State

variable {source : List Char} {breaks : Bool} {s t : State}

theorem run?_aligned {events : List Located} (hs : s.Aligned)
    (hrun : run? source breaks s events = some t) : t.Aligned := by
  induction events generalizing s with
  | nil =>
    obtain rfl := Option.some.inj hrun
    exact hs
  | cons e events ih =>
    obtain ⟨next, hstep, hrun⟩ := Option.bind_eq_some_iff.mp hrun
    exact ih (State.step?_aligned hs hstep) hrun

theorem initial_aligned : State.Aligned {} :=
  ⟨rfl, by simp, by simp⟩

/-- **The stacks never disagree.** In every state that any stream leads to: the containers are the lists
and quotes among the frames, so the end of a list or a quote finds a container of its own kind on top; the
raw depth is positive exactly if the innermost frame is raw, and no frame around it is; and a stop takes
one from the depth or, at depth one, pops that raw frame. -/
theorem run?_stacks_agree (source : List Char) (dialect : Dialect) (events : List Located) {s : State}
    (hrun : run? source dialect.breaks {} events = some s) :
    s.containers.map Container.kind = s.frames.filterMap Frame.kind? ∧
    (∀ outer, s.frames = .list :: outer →
      ∃ ordered items current rest, s.containers = .list ordered items current :: rest) ∧
    (∀ outer, s.frames = .quote :: outer → ∃ content rest, s.containers = .quote content :: rest) ∧
    (0 < s.rawDepth ↔ ∃ start outer, s.frames = .raw start :: outer) ∧
    (∀ frame ∈ s.frames.tail, frame.isRaw = false) ∧
    (∀ span next, s.step? source dialect.breaks ⟨.stop, span⟩ = some next →
      (1 < s.rawDepth → next.rawDepth + 1 = s.rawDepth ∧ next.frames = s.frames) ∧
      (s.rawDepth = 1 → next.rawDepth = 0 ∧ ∃ start, s.frames = .raw start :: next.frames)) := by
  have hs : s.Aligned := run?_aligned initial_aligned hrun
  refine ⟨hs.kinds, ?_, ?_, hs.raw, hs.outer, ?_⟩
  · intro outer hframes
    exact hs.list_of_frames hframes
  · intro outer hframes
    exact hs.quote_of_frames hframes
  · intro span next hstep
    rw [State.step?_stop] at hstep
    rcases State.stop?_cases hs hstep with ⟨hdepth, rfl⟩ | ⟨hframes, rfl⟩ | ⟨hdepth, frame, hframes, -, hzero⟩
    · refine ⟨fun _ => ⟨Nat.sub_add_cancel (by omega), rfl⟩, fun hone => ?_⟩
      omega
    · have hraw : ¬ 0 < s.rawDepth := by
        rw [hs.raw, hframes]
        simp
      exact ⟨fun h => absurd (by omega) hraw, fun h => absurd (by omega) hraw⟩
    · refine ⟨fun h => absurd h (by omega), fun hone => ⟨hzero, ?_⟩⟩
      obtain ⟨start, outer, hraw⟩ := hs.raw.mp (by omega)
      rw [hframes] at hraw
      exact ⟨start, by rw [hframes, (List.cons.inj hraw).1]⟩

/-- A stream that is cut off inside a table in a quote, after a stop too many. -/
theorem run?_stacks_agree_cutOff :
    let source := "> - a\n".toList
    let events : List Located := [⟨.stop, ⟨0, 0⟩⟩, ⟨.start .quote, ⟨0, 6⟩⟩, ⟨.start (.list none), ⟨2, 6⟩⟩,
      ⟨.start .strong, ⟨2, 6⟩⟩, ⟨.start .table, ⟨4, 6⟩⟩, ⟨.start .tableRow, ⟨4, 6⟩⟩]
    ∃ s, run? source false {} events = some s ∧
      s.containers.map Container.kind = [.list, .quote] ∧ s.rawDepth = 2 ∧
      s.containers.map Container.kind = s.frames.filterMap Frame.kind? ∧
      (0 < s.rawDepth ↔ ∃ start outer, s.frames = .raw start :: outer) := by
  intro source events
  have hrun : run? source false {} events = some {
      frames := [.raw 4, .span .strong [], .list, .quote]
      containers := [.list false [] [], .quote []]
      rawDepth := 2 } := rfl
  obtain ⟨hkinds, -, -, hraw, -⟩ := run?_stacks_agree source {} events hrun
  exact ⟨_, hrun, rfl, rfl, hkinds, hraw⟩

end Folio.Folding

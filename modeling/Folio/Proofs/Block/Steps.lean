import Folio.Proofs.Block.Meaning
import Mathlib.Tactic.SplitIfs
/-!
# The steps of the machine, as equations

What each operation of the machine does to a state, and what it leaves alone. Two facts carry the rest.
Content that goes into the innermost container piece by piece is the same as the joined pieces at once,
so everything that a container receives can be moved to the end. And pending content that is flushed
inside a container is just another piece, whether it is empty or not.
-/

namespace Folio.Folding

variable {source : List Char} {breaks : Bool} {s : State}

theorem run?_cons (e : Located) (events : List Located) :
    run? source breaks s (e :: events) =
      (s.step? source breaks e).bind fun next => run? source breaks next events := rfl

theorem run?_append (events more : List Located) :
    run? source breaks s (events ++ more) =
      (run? source breaks s events).bind fun next => run? source breaks next more := by
  induction events generalizing s with
  | nil => rfl
  | cons e events ih =>
    rw [List.cons_append, run?_cons, run?_cons, Option.bind_assoc]
    congr 1
    funext next
    exact ih

theorem run?_singleton (e : Located) :
    run? source breaks s [e] = s.step? source breaks e := by
  rw [run?_cons]
  cases s.step? source breaks e <;> rfl

/-! ### Content that goes into a container -/

namespace State

@[simp] theorem appendNested_nil : s.appendNested [] = s := by
  obtain ⟨_, _, containers, _, _, _, _⟩ := s
  rcases containers with _ | ⟨_ | _, _⟩ <;> simp [appendNested]

theorem appendNested_appendNested (first second : List Inline) :
    (s.appendNested first).appendNested second = s.appendNested (joinWithBreak first second) := by
  obtain ⟨_, _, containers, _, _, _, _⟩ := s
  rcases containers with _ | ⟨_ | _, _⟩ <;> simp [appendNested, joinWithBreak_assoc]

theorem foldl_appendNested (pieces : List (List Inline)) :
    pieces.foldl appendNested s = s.appendNested (joinPieces pieces) := by
  induction pieces generalizing s with
  | nil => rw [List.foldl_nil, joinPieces_nil, appendNested_nil]
  | cons piece rest ih => rw [List.foldl_cons, ih, appendNested_appendNested, joinPieces_cons]

@[simp] theorem appendNested_frames (content : List Inline) :
    (s.appendNested content).frames = s.frames := by
  unfold appendNested
  split <;> rfl

@[simp] theorem appendNested_pending (content : List Inline) :
    (s.appendNested content).pending = s.pending := by
  unfold appendNested
  split <;> rfl

@[simp] theorem appendNested_code (content : List Inline) :
    (s.appendNested content).code = s.code := by
  unfold appendNested
  split <;> rfl

@[simp] theorem appendNested_rawDepth (content : List Inline) :
    (s.appendNested content).rawDepth = s.rawDepth := by
  unfold appendNested
  split <;> rfl

@[simp] theorem appendNested_containers_eq_nil (content : List Inline) :
    (s.appendNested content).containers = [] ↔ s.containers = [] := by
  unfold appendNested
  split <;> simp_all

theorem flush_of_pending_nil (hpending : s.pending = []) : s.flush = s := by
  rw [flush, hpending]
  rfl

/-- Inside a container flushing is adding the pending content as a piece. -/
theorem flush_of_container (hcontainers : s.containers ≠ []) :
    s.flush = { s with pending := [] }.appendNested s.pending := by
  rcases hpending : s.pending with _ | ⟨token, rest⟩
  · rw [flush_of_pending_nil hpending, appendNested_nil, ← hpending]
  · have hempty : (s.pending.isEmpty || s.containers.isEmpty) = false := by
      simp [hpending, hcontainers]
    rw [flush, if_neg (by simp [hempty]), hpending]

/-! ### What an element starts from -/

/-- Nothing is pending, and the machine is neither in a code block nor in a raw element. -/
structure Settled (s : State) : Prop where
  pending : s.pending = []
  code : s.code = ""
  rawDepth : s.rawDepth = 0

/-- A place inside a list or a quote. -/
structure Held (s : State) : Prop where
  frames : s.frames ≠ []
  containers : s.containers ≠ []
  code : s.code = ""
  rawDepth : s.rawDepth = 0

/-- A place where inline content is read. -/
structure Flowing (s : State) : Prop where
  frames : s.frames ≠ []
  notCode : s.atCode = false
  rawDepth : s.rawDepth = 0

theorem Held.flush_pending (hs : s.Held) : s.flush.pending = [] := by
  rw [flush_of_container hs.containers, appendNested_pending]

theorem Held.appendNested (hs : s.Held) (content : List Inline) : (s.appendNested content).Held where
  frames := by
    rw [appendNested_frames]
    exact hs.frames
  containers := by
    rw [ne_eq, appendNested_containers_eq_nil]
    exact hs.containers
  code := by
    rw [appendNested_code]
    exact hs.code
  rawDepth := by
    rw [appendNested_rawDepth]
    exact hs.rawDepth

theorem Held.flush (hs : s.Held) : s.flush.Held := by
  rw [flush_of_container hs.containers]
  have hcleared : Held { s with pending := [] } := ⟨hs.frames, hs.containers, hs.code, hs.rawDepth⟩
  exact hcleared.appendNested s.pending

theorem Held.settled (hs : s.Held) (hpending : s.pending = []) : s.Settled :=
  ⟨hpending, hs.code, hs.rawDepth⟩

/-- A block flushes before it starts, so it may as well start from the flushed state. -/
theorem openElement_flush (hs : s.Held) (tag : Tag) (start : Nat) (htag : tag.spanKind? = none)
    (hitem : tag ≠ .item) : s.openElement tag start = s.flush.openElement tag start := by
  have hflush : s.flush.flush = s.flush := flush_of_pending_nil hs.flush_pending
  cases tag with
  | item => exact absurd rfl hitem
  | paragraph | heading | quote | codeBlock | htmlBlock | list | footnoteDefinition | table =>
    simp only [openElement, openBlock, openContainer, openRaw, hflush]
  | _ => simp [Tag.spanKind?] at htag

theorem openElement_spanTag (tag : Tree.SpanTag) (start : Nat) :
    s.openElement tag.tag start = s.openSpan tag.kind := by
  obtain ⟨tag, kind, hopens⟩ := tag
  cases tag <;> simp [Tag.spanKind?] at hopens <;> subst hopens <;> rfl

/-! ### What an element leaves -/

/-- Marks the end of a passage, which counts where no element is open around it. -/
def finishAt (s : State) (stop : Nat) : State :=
  if s.frames.isEmpty then { s with lastEnd := some stop } else s

theorem finishAt_of_frames (hframes : s.frames ≠ []) (stop : Nat) : s.finishAt stop = s := by
  rw [finishAt, if_neg (by simpa using hframes)]

/-- What a finished passage leaves: a block, or a piece in the container around it. -/
def place (s : State) (content : List Inline) (block : Option Block) : State :=
  if s.containers.isEmpty then block.elim s s.emit else s.appendNested content

theorem place_of_container (hcontainers : s.containers ≠ []) (content : List Inline)
    (block : Option Block) : s.place content block = s.appendNested content := by
  rw [place, if_neg (by simpa using hcontainers)]

theorem placeContent_eq_place (content : List Inline) (block : List Inline → Block) :
    s.placeContent content block =
      s.place content (if content.isEmpty then none else some (block content)) := by
  rw [placeContent, place]
  cases s.containers.isEmpty <;> cases content.isEmpty <;> rfl

@[simp] theorem placeContent_frames (content : List Inline) (block : List Inline → Block) :
    (s.placeContent content block).frames = s.frames := by
  unfold placeContent
  split_ifs
  · exact appendNested_frames content
  · rfl
  · rfl

theorem closeList_frames : s.closeList.frames = s.frames := by
  unfold closeList
  split
  · dsimp only
    split_ifs
    · rfl
    · rw [foldl_appendNested, appendNested_frames]
  · rfl
  · rfl

/-- Closing an element is no business of the frames around it. -/
theorem close?_frames {frame : Frame} {stop : Nat} {closed : State}
    (hclose : s.close? source frame stop = some closed) : closed.frames = s.frames := by
  cases frame with
  | paragraph =>
    obtain rfl := Option.some.inj hclose
    exact placeContent_frames _ _
  | heading depth =>
    rw [close?] at hclose
    split_ifs at hclose <;> obtain rfl := Option.some.inj hclose
    · rfl
    · exact appendNested_frames _
  | code =>
    rw [close?] at hclose
    split_ifs at hclose <;> obtain rfl := Option.some.inj hclose
    · rfl
    · exact appendNested_frames _
  | list =>
    obtain rfl := Option.some.inj hclose
    exact closeList_frames
  | item =>
    obtain rfl := Option.some.inj hclose
    unfold closeItem
    split <;> rfl
  | quote =>
    obtain rfl := Option.some.inj hclose
    unfold closeQuote
    split
    · exact placeContent_frames _ _
    · rfl
    · rfl
  | raw start =>
    obtain ⟨raw, -, hclose⟩ := Option.bind_eq_some_iff.mp hclose
    split_ifs at hclose <;> obtain rfl := Option.some.inj hclose
    · rfl
    · exact appendNested_frames _
  | span kind before =>
    obtain rfl := Option.some.inj hclose
    rfl

/-! ### Steps -/

theorem step?_start (hdepth : s.rawDepth = 0) (tag : Tag) (span : Span) :
    s.step? source breaks ⟨.start tag, span⟩ = s.start? source tag span.start := by
  rw [step?, if_neg (by simp [hdepth])]

theorem step?_stop (span : Span) : s.step? source breaks ⟨.stop, span⟩ = s.stop? source span.stop := by
  rw [step?]
  split <;> rfl

theorem start?_of_frames (hframes : s.frames ≠ []) (tag : Tag) (start : Nat) :
    s.start? source tag start = some (s.openElement tag start) := by
  rw [start?, if_neg (by simpa using hframes)]
  rfl

/-- Unless it only ends something inside a raw element, a stop closes the innermost frame. -/
theorem stop?_of_frames {frame : Frame} {frames : List Frame} (hframes : s.frames = frame :: frames)
    (hdepth : s.rawDepth ≤ 1) (stop : Nat) :
    s.stop? source stop =
      (close? { s with rawDepth := 0, frames := frames } source frame stop).map (finishAt · stop) := by
  rw [stop?, if_neg (Nat.not_lt.mpr hdepth), hframes]
  rcases hclose : close? { s with rawDepth := 0, frames := frames } source frame stop with _ | closed
  · simp [hclose]
  · have hkept : closed.frames = frames := close?_frames hclose
    simp [hclose, finishAt, hkept]

end State

/-- The last step of an element, after what is inside it. -/
theorem run?_closing {opened done closed : State} {inside : List Located} {frame : Frame}
    {frames : List Frame} {closing : Span} (hinside : run? source breaks opened inside = some done)
    (hframes : done.frames = frame :: frames) (hdepth : done.rawDepth ≤ 1)
    (hclose : State.close? { done with rawDepth := 0, frames := frames } source frame closing.stop =
      some closed) :
    run? source breaks opened (inside ++ [⟨.stop, closing⟩]) = some (closed.finishAt closing.stop) := by
  rw [run?_append, hinside, Option.bind_some, run?_singleton, State.step?_stop,
    State.stop?_of_frames hframes hdepth, hclose]
  rfl

end Folio.Folding

import Folio.Proofs.Block.Moves
import Folio.Proofs.Event.Said
/-!
# Raw elements are closed to the inside

An HTML block, a table or a footnote definition is passed through as its source. What happens between its
start and its stop is only counted: every start goes one deeper and every stop comes one back, whatever
they belong to, and so the stop that matches is found. Nothing else in the state moves, so nothing that
the inner events carry, and none of their ranges, can be found in the state afterwards.

The source is cut only at the matching stop, from the start of the element to the end of that stop.
-/

namespace Folio.Folding

open Folio.Tree

variable {source : List Char} {breaks : Bool} {s t opened : State}

namespace State

/-- The end of a raw element delivers its source, and fails where that is no slice. -/
theorem closeRaw?_eq_place (start stop : Nat) :
    s.closeRaw? source start stop = (Text.slice? source start (max start stop)).map fun raw =>
      s.place [.unrecognized (some (String.ofList (Text.trim raw))) none]
        (some (.unrecognized (String.ofList raw))) := by
  rw [closeRaw?]
  cases Text.slice? source start (max start stop) with
  | none => rfl
  | some raw => exact (some_place _ _).symm

/-- The start of a raw element puts its frame on top and starts to count. -/
theorem step?_startRaw (hdepth : s.rawDepth = 0) {tag : RawTag} {opening : Span}
    (hopen : s.step? source breaks ⟨.start tag.tag, opening⟩ = some opened) :
    opened.frames = .raw opening.start :: s.frames ∧ opened.rawDepth = 1 := by
  rw [step?_start hdepth] at hopen
  obtain ⟨blank, -, rfl⟩ := start?_eq_some hopen
  rw [openElement_rawTag]
  have hpushed := openRaw_pushed (s := { s with blocks := s.blocks ++ emitted blank none }) opening.start
  exact ⟨hpushed.frames, hpushed.rawDepth⟩

end State

/-- Through a beginning of what is inside, the depth is one more than the nesting and nothing else
moves. -/
theorem run?_inside_raw (hdepth : opened.rawDepth = 1) (inside : Balanced) {read : List Located}
    (hread : read <+: inside.events) :
    ∃ nesting, nestingAfter? 0 read = some nesting ∧
      run? source breaks opened read = some { opened with rawDepth := 1 + nesting } := by
  obtain ⟨unread, hevents⟩ := hread
  have hclosed : nestingAfter? 0 inside.events = some 0 := inside.closed
  rw [← hevents, nestingAfter?_append] at hclosed
  obtain ⟨nesting, hnesting, -⟩ := Option.bind_eq_some_iff.mp hclosed
  refine ⟨nesting, hnesting, ?_⟩
  rw [Nat.add_comm]
  exact run?_raw source breaks read hdepth hnesting

/-- From the start of a raw element through the matching stop, its source is delivered. -/
theorem run?_through_raw {start : Nat} {outer : List Frame} (hframes : opened.frames = .raw start :: outer)
    (hdepth : opened.rawDepth = 1) (inside : Balanced) (closing : Span) :
    run? source breaks opened (inside.events ++ [⟨.stop, closing⟩]) =
      (Text.slice? source start (max start closing.stop)).map fun raw =>
        (State.place { opened with rawDepth := 0, frames := outer }
          [.unrecognized (some (String.ofList (Text.trim raw))) none]
          (some (.unrecognized (String.ofList raw)))).finishAt closing.stop := by
  have hinside : run? source breaks opened inside.events = some { opened with rawDepth := 1 } :=
    run?_raw source breaks inside.events hdepth inside.closed
  have hframes' : State.frames { opened with rawDepth := 1 } = .raw start :: outer := hframes
  rw [run?_append, hinside, Option.bind_some, run?_singleton, State.step?_stop,
    State.stop?_of_frames hframes' (Nat.le_refl 1)]
  rw [State.close?, State.closeRaw?_eq_place, Option.map_map]
  rfl

/-- **What happens in a raw element has no effect but its source.** Take any state that a stream leads
to, outside a raw element, the start of a raw element there, any balanced events inside and the matching
stop. While the events inside are read the depth is one more than their nesting and the rest of the state
stays as the start left it. After the stop the state is the same whatever the events inside and their
ranges are: the source from the element's start to the end of the stop, or nothing if it ends before, is
a block of its own where no container is open, and trimmed it is one more token in the innermost
container otherwise. -/
theorem run?_raw_delivers_source (source : List Char) (dialect : Dialect) (events : List Located)
    {s opened : State} (tag : RawTag) (opening : Span)
    (hrun : run? source dialect.breaks {} events = some s) (hdepth : s.rawDepth = 0)
    (hopen : s.step? source dialect.breaks ⟨.start tag.tag, opening⟩ = some opened)
    (inside : Balanced) (closing : Span) :
    (∀ read, read <+: inside.events → ∃ nesting, nestingAfter? 0 read = some nesting ∧
      run? source dialect.breaks opened read = some { opened with rawDepth := 1 + nesting }) ∧
    (∀ other : Balanced, run? source dialect.breaks opened (other.events ++ [⟨.stop, closing⟩]) =
      run? source dialect.breaks opened (inside.events ++ [⟨.stop, closing⟩])) ∧
    (opened.containers = [] →
      run? source dialect.breaks opened (inside.events ++ [⟨.stop, closing⟩]) =
        (Text.slice? source opening.start (max opening.start closing.stop)).map fun raw => { opened with
          blocks := opened.blocks ++ [.unrecognized (String.ofList raw)]
          frames := s.frames
          rawDepth := 0
          lastEnd := if s.frames.isEmpty then some closing.stop else opened.lastEnd }) ∧
    (∀ container outer, opened.containers = container :: outer →
      run? source dialect.breaks opened (inside.events ++ [⟨.stop, closing⟩]) =
        (Text.slice? source opening.start (max opening.start closing.stop)).map fun raw => { opened with
          containers :=
            container.extend [.unrecognized (some (String.ofList (Text.trim raw))) none] :: outer
          frames := s.frames
          rawDepth := 0 }) ∧
    (opening.Fits source → closing.Fits source →
      ∃ raw, Text.slice? source opening.start (max opening.start closing.stop) = some raw) := by
  have hs : s.Aligned := run?_aligned initial_aligned hrun
  have hopened : opened.Aligned := State.step?_aligned hs hopen
  obtain ⟨hframes, hone⟩ := State.step?_startRaw hdepth hopen
  refine ⟨fun read hread => run?_inside_raw hone inside hread, ?_, ?_, ?_, ?_⟩
  · intro other
    rw [run?_through_raw hframes hone, run?_through_raw hframes hone]
  · intro hcontainers
    rw [run?_through_raw hframes hone]
    congr 1
    funext raw
    rw [State.place, if_pos (by simp [hcontainers])]
    cases s.frames <;> rfl
  · intro container outer htop
    have houter : s.frames ≠ [] := by
      intro hnil
      have hkinds := hopened.kinds
      rw [hframes, hnil, State.kinds, htop] at hkinds
      exact List.cons_ne_nil _ _ hkinds
    have htop' : State.containers { opened with rawDepth := 0, frames := s.frames } = container :: outer := htop
    rw [run?_through_raw hframes hone]
    congr 1
    funext raw
    rw [State.place_of_container (by simp [htop]), State.appendNested_of_top htop']
    apply State.finishAt_of_frames
    exact houter
  · intro hopening hclosing
    exact ⟨_, slice?_sourceText source hopening hclosing⟩

/-- Markup in a tight item, with a table and a quote inside whose ranges lie anywhere. -/
theorem run?_raw_delivers_source_tightItem :
    let source := "- a\n  <b> \n".toList
    let events : List Located :=
      [⟨.start (.list none), ⟨0, 11⟩⟩, ⟨.start .item, ⟨0, 11⟩⟩, ⟨.text "a", ⟨2, 3⟩⟩]
    let table : Located := ⟨.start .table, ⟨90, 80⟩⟩
    let inside : Balanced := ⟨[table, ⟨.rule, ⟨7, 1⟩⟩, ⟨.start .quote, ⟨3, 3⟩⟩, ⟨.text "z", ⟨40, 41⟩⟩,
      ⟨.stop, ⟨0, 0⟩⟩, ⟨.stop, ⟨9, 99⟩⟩], rfl⟩
    ∃ s opened, run? source false {} events = some s ∧ s.rawDepth = 0 ∧
      s.step? source false ⟨.start .htmlBlock, ⟨6, 10⟩⟩ = some opened ∧
      run? source false opened [table] = some { opened with rawDepth := 2 } ∧
      run? source false opened (inside.events ++ [⟨.stop, ⟨6, 10⟩⟩]) = some {
        frames := [.item, .list]
        containers := [.list false [] [.text "a", .lineBreak, .unrecognized (some "<b>") none]] } := by
  intro source events table inside
  have hrun : run? source false {} events = some {
      frames := [.item, .list]
      containers := [.list false [] []]
      pending := [.text "a"] } := rfl
  obtain ⟨hinside, -, -, hnested, -⟩ := run?_raw_delivers_source source {} events ⟨.htmlBlock, rfl⟩ ⟨6, 10⟩
    hrun rfl rfl inside ⟨6, 10⟩
  obtain ⟨nesting, hnesting, hread⟩ := hinside [table] (List.prefix_append [table] _)
  obtain rfl : 1 = nesting := Option.some.inj hnesting
  exact ⟨_, _, hrun, rfl, rfl, hread, (hnested _ _ rfl).trans rfl⟩

end Folio.Folding

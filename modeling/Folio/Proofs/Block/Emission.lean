import Folio.Proofs.Block.Cuts
import Folio.Proofs.Block.Moves
/-!
# What a step emits

Blocks are only ever added at the end, and few events add any. The start of a block may add a blank, the
end of one may add the block, and a rule may add both. Inside a list or a quote nothing is added at all:
what ends there is placed in the container.

Where a block starts depends on the frames, and where it ends depends on the containers. Nothing leaks out
of a container because the two agree: while a container is open a frame is open too, so no block starts at
the top level and the end of the last block stays where it was.
-/

namespace Folio.Folding

variable {source : List Char} {breaks : Bool} {s t : State}

/-- What an event may emit: a blank if it is a rule or a start, another block if it is a rule or a stop. -/
structure MayEmit (event : Event) (blank : Bool) (block : Option Block) : Prop where
  blank : blank = true → event = .rule ∨ ∃ tag, event = .start tag
  block : ∀ other, block = some other → other ≠ .blank ∧ (event = .rule ∨ event = .stop)

theorem mayEmit_nothing (event : Event) : MayEmit event false none :=
  ⟨by simp, by simp⟩

namespace State

@[simp] theorem appendNested_blocks (content : List Inline) : (s.appendNested content).blocks = s.blocks := by
  unfold appendNested
  split <;> rfl

@[simp] theorem flush_blocks : s.flush.blocks = s.blocks := by
  unfold flush
  split_ifs
  · rfl
  · exact appendNested_blocks _

theorem openElement_blocks (tag : Tag) (start : Nat) : (s.openElement tag start).blocks = s.blocks := by
  cases tag with
  | paragraph | heading | codeBlock | list | quote | htmlBlock | table | footnoteDefinition =>
    exact flush_blocks
  | _ => rfl

theorem closeItem_frame : s.closeItem.blocks = s.blocks ∧ s.closeItem.lastEnd = s.lastEnd := by
  unfold closeItem
  split
  · exact ⟨rfl, rfl⟩
  · exact ⟨rfl, rfl⟩

/-! ### Placing -/

theorem place_blocks_of_top (hcontainers : s.containers = []) (content : List Inline) (block : Option Block) :
    (s.place content block).blocks = s.blocks ++ block.toList := by
  rw [place, if_pos (by simp [hcontainers])]
  cases block with
  | none => simp
  | some block => rfl

theorem place_containers_eq_nil (content : List Inline) (block : Option Block) :
    (s.place content block).containers = [] ↔ s.containers = [] := by
  rw [place]
  split_ifs
  · cases block <;> rfl
  · exact appendNested_containers_eq_nil content

theorem place_lastEnd (content : List Inline) (block : Option Block) :
    (s.place content block).lastEnd = s.lastEnd := by
  rw [place]
  split_ifs
  · cases block <;> rfl
  · exact appendNested_lastEnd content

/-- Taking up what was collected emits nothing by itself, and no passage is a blank. -/
theorem Delivers.frame {stop : Nat} {frame : Frame} {rest : State} {content : List Inline}
    {block : Option Block} (h : s.Delivers source stop frame rest content block) :
    rest.blocks = s.blocks ∧ rest.lastEnd = s.lastEnd ∧ ∀ other, block = some other → other ≠ .blank := by
  cases h with
  | paragraph | quote =>
    refine ⟨rfl, rfl, ?_⟩
    intro other hother
    split_ifs at hother
    obtain rfl := Option.some.inj hother
    simp
  | heading | code | list | raw =>
    refine ⟨rfl, rfl, ?_⟩
    intro other hother
    obtain rfl := Option.some.inj hother
    simp

/-- What closes emits one block or none, and none while a container is left open. -/
theorem Closes.emits {stop : Nat} {frame : Frame} (h : s.Closes source stop frame t) :
    (∃ block : Option Block, t.blocks = s.blocks ++ block.toList ∧ ∀ other, block = some other → other ≠ .blank) ∧
    (t.containers ≠ [] → t.blocks = s.blocks) ∧ t.lastEnd = s.lastEnd := by
  cases h with
  | @passage _ rest content block hdelivers =>
    obtain ⟨hblocks, hlast, hblank⟩ := hdelivers.frame
    rw [place_lastEnd, hlast]
    by_cases hcontainers : rest.containers = []
    · refine ⟨⟨block, ?_, hblank⟩, ?_, rfl⟩
      · rw [place_blocks_of_top hcontainers, hblocks]
      · intro hopen
        rw [ne_eq, place_containers_eq_nil] at hopen
        exact absurd hcontainers hopen
    · have hkept : (rest.place content block).blocks = s.blocks := by
        rw [place_of_container hcontainers, appendNested_blocks, hblocks]
      exact ⟨⟨none, by simpa using hkept, by simp⟩, fun _ => hkept, rfl⟩
  | item =>
    obtain ⟨hblocks, hlast⟩ := s.closeItem_frame
    exact ⟨⟨none, by simpa using hblocks, by simp⟩, fun _ => hblocks, hlast⟩
  | span => exact ⟨⟨none, by simp, by simp⟩, fun _ => rfl, rfl⟩

theorem finishAt_blocks (stop : Nat) : (s.finishAt stop).blocks = s.blocks := by
  rw [finishAt]
  split_ifs
  · rfl
  · rfl

theorem finishAt_containers (stop : Nat) : (s.finishAt stop).containers = s.containers := by
  rw [finishAt]
  split_ifs
  · rfl
  · rfl

theorem finishAt_frames (stop : Nat) : (s.finishAt stop).frames = s.frames := by
  rw [finishAt]
  split_ifs
  · rfl
  · rfl

/-! ### One step -/

/-- A step adds a blank, then another block, as far as its event may emit them. -/
theorem Moves.emits {e : Located} (h : s.Moves source e t) :
    ∃ blank block, t.blocks = s.blocks ++ emitted blank block ∧ MayEmit e.event blank block := by
  cases h with
  | counted | coded | texted | added =>
    exact ⟨false, none, (List.append_nil _).symm, mayEmit_nothing _⟩
  | @opened tag blank hevent =>
    refine ⟨blank, none, openElement_blocks tag _, ?_⟩
    exact ⟨fun _ => .inr ⟨tag, hevent⟩, by simp⟩
  | @ruled blank hevent =>
    refine ⟨blank, some .rule, rfl, fun _ => .inl hevent, ?_⟩
    intro other hother
    obtain rfl := Option.some.inj hother
    exact ⟨by simp, .inl hevent⟩
  | closed hevent hframes hcloses =>
    obtain ⟨⟨block, hblocks, hblank⟩, -, -⟩ := hcloses.emits
    refine ⟨false, block, ?_, by simp, ?_⟩
    · rw [finishAt_blocks, hblocks]
      rfl
    · intro other hother
      exact ⟨hblank other hother, .inr hevent⟩

/-- Where a container is open a frame is open. -/
theorem Aligned.frames_ne_nil (hs : s.Aligned) (hcontainers : s.containers ≠ []) : s.frames ≠ [] := by
  intro hframes
  have hkinds : s.containers.map Container.kind = [] := by
    rw [← State.kinds, hs.kinds, hframes]
    rfl
  exact hcontainers (List.map_eq_nil_iff.mp hkinds)

/-- A step between two states with open containers emits nothing. -/
theorem Moves.contained {e : Located} (h : s.Moves source e t) (hs : s.Aligned) (ht : t.Aligned)
    (hbefore : s.containers ≠ []) (hafter : t.containers ≠ []) :
    t.blocks = s.blocks ∧ t.lastEnd = s.lastEnd := by
  have hframes : s.frames ≠ [] := hs.frames_ne_nil hbefore
  cases h with
  | counted | coded | texted | added => exact ⟨rfl, rfl⟩
  | @opened tag blank hevent hdepth hblank =>
    have hnone : blank = false := by
      rcases hblank with ⟨-, hnone⟩ | ⟨hnil, -⟩
      · exact hnone
      · exact absurd hnil hframes
    rw [openElement_blocks, (openElement_keeps tag _).1, hnone]
    exact ⟨List.append_nil _, rfl⟩
  | ruled hevent hnil => exact absurd hnil hframes
  | closed hevent htop hcloses =>
    obtain ⟨-, hcontained, hlast⟩ := hcloses.emits
    have hopen : _ ≠ [] := ht.frames_ne_nil hafter
    rw [finishAt_frames] at hopen
    rw [finishAt_containers] at hafter
    rw [finishAt_of_frames hopen]
    exact ⟨hcontained hafter, hlast⟩

end State

/-! ### Runs -/

/-- What is emitted is never taken back. -/
theorem run?_keeps_blocks {events : List Located} (hs : s.Aligned)
    (hrun : run? source breaks s events = some t) : s.blocks <+: t.blocks := by
  induction events generalizing s with
  | nil =>
    obtain rfl := Option.some.inj hrun
    exact List.prefix_refl _
  | cons e events ih =>
    obtain ⟨next, hstep, hrun⟩ := Option.bind_eq_some_iff.mp hrun
    obtain ⟨blank, block, hblocks, -⟩ := (State.step?_moves hs hstep).emits
    have hfirst : s.blocks <+: next.blocks := by
      rw [hblocks]
      exact List.prefix_append _ _
    exact hfirst.trans (ih (State.step?_aligned hs hstep) hrun)

/-- As long as a container is open a run emits nothing. -/
theorem run?_contained {events : List Located} (hs : s.Aligned)
    (hrun : run? source breaks s events = some t)
    (hopen : ∀ read mid, read <+: events → run? source breaks s read = some mid → mid.containers ≠ []) :
    t.blocks = s.blocks ∧ t.lastEnd = s.lastEnd := by
  induction events generalizing s with
  | nil =>
    obtain rfl := Option.some.inj hrun
    exact ⟨rfl, rfl⟩
  | cons e events ih =>
    obtain ⟨next, hstep, hrun⟩ := Option.bind_eq_some_iff.mp hrun
    have haligned : next.Aligned := State.step?_aligned hs hstep
    have hbefore : s.containers ≠ [] := hopen [] s List.nil_prefix rfl
    have hafter : next.containers ≠ [] := by
      apply hopen [e] next (List.prefix_append [e] events)
      rw [run?_singleton, hstep]
    obtain ⟨hblocks, hlast⟩ := (State.step?_moves hs hstep).contained hs haligned hbefore hafter
    rw [← hblocks, ← hlast]
    apply ih haligned hrun
    intro read mid hread hmid
    apply hopen (e :: read) mid (List.cons_prefix_cons.mpr ⟨rfl, hread⟩)
    rw [run?_cons, hstep, Option.bind_some, hmid]

/-- **Nothing leaks out of a container, and emitted blocks are final.** From every state that any stream
leads to, an event adds at most a blank and then at most one other block to the blocks emitted before:
the blank only if it is a rule or a start, the block only if it is a rule or a stop. If a list or a quote
is open before and after the event, it adds nothing and the end of the last block stays where it is. So a
run keeps the blocks that it starts with in front, and emits none while a list or a quote is open
throughout. -/
theorem run?_blocks_final (source : List Char) (dialect : Dialect) (events : List Located) {s next : State}
    {e : Located} (hrun : run? source dialect.breaks {} events = some s)
    (hstep : s.step? source dialect.breaks e = some next) :
    (∃ blank block, next.blocks = s.blocks ++ emitted blank block ∧ MayEmit e.event blank block) ∧
    (s.containers ≠ [] → next.containers ≠ [] → next.blocks = s.blocks ∧ next.lastEnd = s.lastEnd) ∧
    ∀ more final, run? source dialect.breaks s more = some final →
      s.blocks <+: final.blocks ∧
      ((∀ read mid, read <+: more → run? source dialect.breaks s read = some mid → mid.containers ≠ []) →
        final.blocks = s.blocks ∧ final.lastEnd = s.lastEnd) := by
  have hs : s.Aligned := run?_aligned initial_aligned hrun
  have hmoves : s.Moves source e next := State.step?_moves hs hstep
  refine ⟨hmoves.emits, ?_, ?_⟩
  · intro hbefore hafter
    exact hmoves.contained hs (State.step?_aligned hs hstep) hbefore hafter
  · intro more final hmore
    exact ⟨run?_keeps_blocks hs hmore, run?_contained hs hmore⟩

/-- A paragraph that ends in a quote, and a rule after a blank line behind the quote. -/
theorem run?_blocks_final_quoteAndRule :
    let source := "> a\n\n***".toList
    let inQuote : List Located := [⟨.start .quote, ⟨0, 4⟩⟩, ⟨.start .paragraph, ⟨2, 4⟩⟩, ⟨.text "a", ⟨2, 3⟩⟩]
    let paragraphEnd : Located := ⟨.stop, ⟨2, 4⟩⟩
    let throughQuote : List Located := inQuote ++ [paragraphEnd, ⟨.stop, ⟨0, 4⟩⟩]
    let rule : Located := ⟨.rule, ⟨5, 8⟩⟩
    (∃ s next, run? source false {} inQuote = some s ∧ s.step? source false paragraphEnd = some next ∧
      s.containers ≠ [] ∧ next.containers ≠ [] ∧ next.blocks = s.blocks ∧ next.lastEnd = s.lastEnd) ∧
    ∃ s next, run? source false {} throughQuote = some s ∧ s.step? source false rule = some next ∧
      next.blocks = [.quote [.text "a"], .blank, .rule] ∧
      ∃ blank block, next.blocks = s.blocks ++ emitted blank block ∧ MayEmit .rule blank block := by
  intro source inQuote paragraphEnd throughQuote rule
  constructor
  · have hrun : run? source false {} inQuote = some {
        frames := [.paragraph, .quote]
        containers := [.quote []]
        pending := [.text "a"] } := rfl
    obtain ⟨-, hcontained, -⟩ := run?_blocks_final source {} inQuote (e := paragraphEnd) hrun rfl
    have hopen : [Container.quote [Inline.text "a"]] ≠ [] := List.cons_ne_nil _ _
    exact ⟨_, _, hrun, rfl, List.cons_ne_nil _ _, hopen, hcontained (List.cons_ne_nil _ _) hopen⟩
  · have hrun : run? source false {} throughQuote = some {
        blocks := [.quote [.text "a"]]
        lastEnd := some 4 } := rfl
    obtain ⟨hemits, -, -⟩ := run?_blocks_final source {} throughQuote (e := rule) hrun rfl
    exact ⟨_, _, hrun, rfl, rfl, hemits⟩

end Folio.Folding

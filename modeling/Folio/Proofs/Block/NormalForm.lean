import Folio.Proofs.Block.Moves
/-!
# Content in normal form

Neighbouring texts are one text. In no sequence of tokens that the machine holds, and in none below it,
do two texts stand next to each other, and a text is empty only if the stream has an empty one.

Content moves around a lot before it is emitted. It is pending, it is kept by a span while what is inside
is pending, it is in an item or a quote, and from there it goes into an outer container or into a block.
So the property has to hold in all of these places at once. It does because content is built in four ways
only, and the proof is for any property that these keep.
-/

namespace Folio

open Inline

/-- The sequences of a block. -/
def Block.contents : Block → List (List Inline)
  | .heading _ content | .paragraph content | .quote content => [content]
  | .list _ items => items
  | .code _ | .rule | .blank | .unrecognized _ => []

namespace Folding

variable {source : List Char} {breaks : Bool} {s t : State} {allowed : String → Prop}
  {P : List Inline → Prop}

/-- The content that an open span keeps. -/
def Frame.contents : Frame → List (List Inline)
  | .span _ before => [before]
  | .paragraph | .heading _ | .code | .list | .item | .quote | .raw _ => []

/-- The sequences of a container: of a list the items and the current one. -/
def Container.contents : Container → List (List Inline)
  | .list _ items current => items ++ [current]
  | .quote content => [content]

namespace State

/-- All sequences that a state holds. -/
def contents (s : State) : List (List Inline) :=
  s.pending :: (s.frames.flatMap Frame.contents ++ s.containers.flatMap Container.contents ++
    s.blocks.flatMap Block.contents)

/-- A property of sequences holds of all that a state holds. -/
structure Holds (P : List Inline → Prop) (s : State) : Prop where
  pending : P s.pending
  frames : ∀ frame ∈ s.frames, ∀ tokens ∈ frame.contents, P tokens
  containers : ∀ container ∈ s.containers, ∀ tokens ∈ container.contents, P tokens
  blocks : ∀ block ∈ s.blocks, ∀ tokens ∈ block.contents, P tokens

theorem Holds.of_mem_contents (hs : s.Holds P) {tokens : List Inline} (hmem : tokens ∈ s.contents) :
    P tokens := by
  rcases List.mem_cons.mp hmem with rfl | hmem
  · exact hs.pending
  rcases List.mem_append.mp hmem with hmem | hmem
  · rcases List.mem_append.mp hmem with hmem | hmem
    · obtain ⟨frame, hframe, htokens⟩ := List.mem_flatMap.mp hmem
      exact hs.frames frame hframe tokens htokens
    · obtain ⟨container, hcontainer, htokens⟩ := List.mem_flatMap.mp hmem
      exact hs.containers container hcontainer tokens htokens
  · obtain ⟨block, hblock, htokens⟩ := List.mem_flatMap.mp hmem
    exact hs.blocks block hblock tokens htokens

/-! ### Operations -/

theorem Holds.clear (hs : s.Holds P) (hP : Kept allowed P) : Holds P { s with pending := [] } :=
  ⟨hP.nil, hs.frames, hs.containers, hs.blocks⟩

theorem Holds.addBlocks (hs : s.Holds P) {blocks : List Block}
    (hblocks : ∀ block ∈ blocks, ∀ tokens ∈ block.contents, P tokens) :
    Holds P { s with blocks := s.blocks ++ blocks } :=
  ⟨hs.pending, hs.frames, hs.containers, List.forall_mem_append.mpr ⟨hs.blocks, hblocks⟩⟩

theorem Holds.pop (hs : s.Holds P) {container : Container} {outer : List Container}
    (htop : s.containers = container :: outer) : Holds P { s with containers := outer } where
  pending := hs.pending
  frames := hs.frames
  containers := by
    intro other hmem
    apply hs.containers other
    rw [htop]
    exact List.mem_cons_of_mem container hmem
  blocks := hs.blocks

theorem Holds.push (hs : s.Holds P) {container : Container}
    (hcontainer : ∀ tokens ∈ container.contents, P tokens) :
    Holds P { s with containers := container :: s.containers } :=
  ⟨hs.pending, hs.frames, List.forall_mem_cons.mpr ⟨hcontainer, hs.containers⟩, hs.blocks⟩

theorem Holds.pushFrame (hs : s.Holds P) {frame : Frame} (hframes : t.frames = frame :: s.frames)
    (hframe : ∀ tokens ∈ frame.contents, P tokens) (hpending : P t.pending)
    (hcontainers : t.containers = s.containers) (hblocks : t.blocks = s.blocks) : t.Holds P where
  pending := hpending
  frames := by
    rw [hframes]
    exact List.forall_mem_cons.mpr ⟨hframe, hs.frames⟩
  containers := by
    rw [hcontainers]
    exact hs.containers
  blocks := by
    rw [hblocks]
    exact hs.blocks

theorem Holds.top (hs : s.Holds P) {container : Container} {outer : List Container}
    (htop : s.containers = container :: outer) : ∀ tokens ∈ container.contents, P tokens := by
  apply hs.containers container
  rw [htop]
  exact List.mem_cons_self

theorem contents_extend (hP : Kept allowed P) {container : Container} {content : List Inline}
    (hcontainer : ∀ tokens ∈ container.contents, P tokens) (hcontent : P content) :
    ∀ tokens ∈ (container.extend content).contents, P tokens := by
  cases container with
  | list ordered items current =>
    obtain ⟨hitems, hcurrent⟩ := List.forall_mem_append.mp hcontainer
    have hjoined : P (joinWithBreak current content) := hP.join (hcurrent current (by simp)) hcontent
    exact List.forall_mem_append.mpr ⟨hitems, by simpa using hjoined⟩
  | quote buffer =>
    have hbuffer : P buffer := hcontainer buffer (by simp [Container.contents])
    simpa [Container.contents, Container.extend] using hP.join hbuffer hcontent

theorem Holds.appendNested (hs : s.Holds P) (hP : Kept allowed P) {content : List Inline}
    (hcontent : P content) : (s.appendNested content).Holds P := by
  rcases htop : s.containers with _ | ⟨container, outer⟩
  · rwa [State.appendNested, htop]
  · rw [appendNested_of_top htop]
    exact (hs.pop htop).push (contents_extend hP (hs.top htop) hcontent)

theorem Holds.flush (hs : s.Holds P) (hP : Kept allowed P) : s.flush.Holds P := by
  rw [State.flush]
  split_ifs
  · exact hs
  · exact (hs.clear hP).appendNested hP hs.pending

theorem Holds.place (hs : s.Holds P) (hP : Kept allowed P) {content : List Inline} {block : Option Block}
    (hcontent : P content) (hblock : ∀ other, block = some other → ∀ tokens ∈ other.contents, P tokens) :
    (s.place content block).Holds P := by
  rw [State.place]
  split_ifs
  · cases block with
    | none => exact hs
    | some block => exact hs.addBlocks (by simpa using hblock block rfl)
  · exact hs.appendNested hP hcontent

theorem Holds.closeItem (hs : s.Holds P) (hP : Kept allowed P) : s.closeItem.Holds P := by
  rw [State.closeItem]
  split
  case h_1 ordered items current outer htop =>
    have hold := List.forall_mem_append.mp (hs.top htop)
    have hitem : P (joinWithBreak current s.pending) := hP.join (hold.2 current (by simp)) hs.pending
    have hnew : ∀ tokens ∈
        (Container.list ordered (items ++ [joinWithBreak current s.pending]) []).contents, P tokens := by
      intro tokens hmem
      simp only [Container.contents, List.mem_append, List.mem_singleton] at hmem
      rcases hmem with (hmem | rfl) | rfl
      · exact hold.1 tokens hmem
      · exact hitem
      · exact hP.nil
    exact ((hs.clear hP).pop htop).push hnew
  case h_2 => exact hs.clear hP

/-! ### Moves -/

theorem Holds.openElement (hs : s.Holds P) (hP : Kept allowed P) (tag : Tag) (start : Nat) :
    (s.openElement tag start).Holds P := by
  have hflush : s.flush.Holds P := hs.flush hP
  have hempty : ∀ tokens ∈ ([] : List (List Inline)), P tokens := by simp
  cases tag with
  | paragraph | heading | codeBlock | htmlBlock | table | footnoteDefinition =>
    exact hflush.pushFrame rfl hempty hflush.pending rfl rfl
  | list number =>
    have hlist : ∀ tokens ∈ (Container.list number.isSome [] []).contents, P tokens := by
      simpa [Container.contents] using hP.nil
    exact (hflush.push hlist).pushFrame rfl hempty hflush.pending rfl rfl
  | quote =>
    have hquote : ∀ tokens ∈ (Container.quote []).contents, P tokens := by
      simpa [Container.contents] using hP.nil
    exact (hflush.push hquote).pushFrame rfl hempty hflush.pending rfl rfl
  | item => exact hs.pushFrame rfl hempty hs.pending rfl rfl
  | _ =>
    have hkept : ∀ tokens ∈ [s.pending], P tokens := by simpa using hs.pending
    exact hs.pushFrame rfl hkept hP.nil rfl rfl

theorem contents_some {block : Block} (hblock : ∀ tokens ∈ block.contents, P tokens) :
    ∀ other, some block = some other → ∀ tokens ∈ other.contents, P tokens := by
  intro other hother
  rwa [← Option.some.inj hother]

/-- A block that empty content does not make. -/
theorem contents_ite {content : List Inline} {block : Block} (hblock : ∀ tokens ∈ block.contents, P tokens) :
    ∀ other, (if content.isEmpty then none else some block) = some other →
      ∀ tokens ∈ other.contents, P tokens := by
  intro other hother
  split_ifs at hother
  exact contents_some hblock other hother

theorem Delivers.holds (hs : s.Holds P) (hP : Kept allowed P) {stop : Nat} {frame : Frame} {rest : State}
    {content : List Inline} {block : Option Block} (h : s.Delivers source stop frame rest content block) :
    rest.Holds P ∧ P content ∧ ∀ other, block = some other → ∀ tokens ∈ other.contents, P tokens := by
  have hpending : ∀ tokens ∈ [s.pending], P tokens := by simpa using hs.pending
  cases h with
  | paragraph => exact ⟨hs.clear hP, hs.pending, contents_ite hpending⟩
  | heading => exact ⟨hs.clear hP, hP.singleton rfl hs.pending, contents_some hpending⟩
  | code =>
    refine ⟨⟨hs.pending, hs.frames, hs.containers, hs.blocks⟩, hP.singleton rfl hP.nil, ?_⟩
    exact contents_some (by simp [Block.contents])
  | list htop =>
    have hitems := (List.forall_mem_append.mp (hs.top htop)).1
    exact ⟨hs.pop htop, hP.joinPieces hitems, contents_some hitems⟩
  | quote htop =>
    have hcontent := hs.top htop
    exact ⟨hs.pop htop, hcontent content (by simp [Container.contents]), contents_ite hcontent⟩
  | raw => exact ⟨hs, hP.singleton rfl hP.nil, contents_some (by simp [Block.contents])⟩

theorem Closes.holds (hs : s.Holds P) (hP : Kept allowed P) {stop : Nat} {frame : Frame}
    (hframe : ∀ tokens ∈ frame.contents, P tokens) (h : s.Closes source stop frame t) : t.Holds P := by
  cases h with
  | passage hdelivers =>
    obtain ⟨hrest, hcontent, hblock⟩ := hdelivers.holds hs hP
    exact hrest.place hP hcontent hblock
  | item => exact hs.closeItem hP
  | @span kind before =>
    have hbefore : P before := hframe before (by simp [Frame.contents])
    exact ⟨hP.closeSpan hbefore hs.pending kind, hs.frames, hs.containers, hs.blocks⟩

theorem contents_emitted (blank : Bool) {block : Option Block}
    (hblock : ∀ other, block = some other → ∀ tokens ∈ other.contents, P tokens) :
    ∀ other ∈ emitted blank block, ∀ tokens ∈ other.contents, P tokens := by
  intro other hmem
  rcases List.mem_append.mp hmem with hmem | hmem
  · cases blank with
    | false => simp at hmem
    | true =>
      obtain rfl := List.mem_singleton.mp hmem
      simp [Block.contents]
  · exact hblock other (Option.mem_toList.mp hmem)

/-- Every step keeps what the ways of building keep. -/
theorem Moves.holds (hs : s.Holds P) (hP : Kept allowed P) (hown : ∀ literal ∈ ownTexts, allowed literal)
    {e : Located} (htext : ∀ literal, e.event = .text literal → allowed literal)
    (h : s.Moves source e t) : t.Holds P := by
  cases h with
  | counted | coded => exact ⟨hs.pending, hs.frames, hs.containers, hs.blocks⟩
  | @texted literal hliteral =>
    have hallowed : allowed literal := hliteral.elim (htext literal) (hown literal)
    exact ⟨hP.text hs.pending hallowed, hs.frames, hs.containers, hs.blocks⟩
  | added hleaf hchildren =>
    refine ⟨hP.token hs.pending hleaf ?_, hs.frames, hs.containers, hs.blocks⟩
    rw [hchildren]
    exact hP.nil
  | @opened tag blank =>
    have hnoted : Holds P { s with blocks := s.blocks ++ emitted blank none } :=
      hs.addBlocks (contents_emitted blank (by simp))
    exact hnoted.openElement hP tag e.span.start
  | @ruled blank =>
    have hruled : Holds P { s with blocks := s.blocks ++ emitted blank (some .rule) } :=
      hs.addBlocks (contents_emitted blank (by simp [Block.contents]))
    exact ⟨hruled.pending, hruled.frames, hruled.containers, hruled.blocks⟩
  | @closed frame outer rest hevent hframes hcloses =>
    have hall := hs.frames
    rw [hframes] at hall
    obtain ⟨hframe, houter⟩ := List.forall_mem_cons.mp hall
    have hpopped : Holds P { s with rawDepth := 0, frames := outer } :=
      ⟨hs.pending, houter, hs.containers, hs.blocks⟩
    have hrest : rest.Holds P := hcloses.holds hpopped hP hframe
    rw [finishAt]
    split_ifs
    · exact ⟨hrest.pending, hrest.frames, hrest.containers, hrest.blocks⟩
    · exact hrest

end State

theorem run?_holds (hP : Kept allowed P) (hown : ∀ literal ∈ ownTexts, allowed literal)
    {events : List Located} (htexts : ∀ e ∈ events, ∀ literal, e.event = .text literal → allowed literal)
    (haligned : s.Aligned) (hs : s.Holds P) (hrun : run? source breaks s events = some t) : t.Holds P := by
  induction events generalizing s with
  | nil =>
    obtain rfl := Option.some.inj hrun
    exact hs
  | cons e events ih =>
    obtain ⟨next, hstep, hrun⟩ := Option.bind_eq_some_iff.mp hrun
    obtain ⟨htext, htexts⟩ := List.forall_mem_cons.mp htexts
    have hnext : next.Holds P := (State.step?_moves haligned hstep).holds hs hP hown htext
    exact ih htexts (State.step?_aligned haligned hstep) hnext hrun

theorem initial_holds (hP : Kept allowed P) : State.Holds P {} :=
  ⟨hP.nil, by simp, by simp, by simp⟩

/-- **Content is in normal form.** In every state that any stream leads to, in every sequence that the
state holds and in every sequence below one of its tokens, no two neighbours are texts; and if no text
event of the stream is empty, no text there is empty. -/
theorem run?_contents_merged (source : List Char) (dialect : Dialect) (events : List Located) {s : State}
    (hrun : run? source dialect.breaks {} events = some s) :
    ∀ tokens ∈ s.contents, ∀ inner, Within inner tokens →
      (∀ before first second after, inner ≠ before ++ .text first :: .text second :: after) ∧
      ((∀ e ∈ events, e.event ≠ .text "") → .text "" ∉ inner) := by
  intro tokens hmem inner hwithin
  constructor
  · intro before first second after hinner
    have hs : s.Holds (Everywhere Merged) :=
      run?_holds kept_merged.everywhere (by simp) (by simp) initial_aligned
        (initial_holds kept_merged.everywhere) hrun
    have hmerged : Merged inner := hs.of_mem_contents hmem inner hwithin
    rw [hinner, Merged, List.isChain_append_cons_cons] at hmerged
    simp [isText] at hmerged
  · intro hfull
    have htexts : ∀ e ∈ events, ∀ literal, e.event = .text literal → literal ≠ "" := by
      rintro e hevent literal htext rfl
      exact hfull e hevent htext
    have hs : s.Holds (Everywhere fun tokens => .text "" ∉ tokens) :=
      run?_holds kept_noEmptyText.everywhere (by decide) htexts initial_aligned
        (initial_holds kept_noEmptyText.everywhere) hrun
    exact hs.of_mem_contents hmem inner hwithin

/-- Three texts become one inside a span, and two behind it. -/
theorem run?_contents_merged_span :
    let source := "**a\nb** cd".toList
    let events : List Located := [⟨.start .paragraph, ⟨0, 10⟩⟩, ⟨.start .strong, ⟨0, 7⟩⟩, ⟨.text "a", ⟨2, 3⟩⟩,
      ⟨.softBreak, ⟨3, 4⟩⟩, ⟨.text "b", ⟨4, 5⟩⟩, ⟨.stop, ⟨0, 7⟩⟩, ⟨.text " c", ⟨7, 9⟩⟩, ⟨.text "d", ⟨9, 10⟩⟩,
      ⟨.stop, ⟨0, 10⟩⟩]
    let inner : List Inline := [.text "a b"]
    ∃ s, run? source false {} events = some s ∧ (∀ e ∈ events, e.event ≠ .text "") ∧
      [.strong inner, .text " cd"] ∈ s.contents ∧ Within inner [.strong inner, .text " cd"] ∧
      (∀ before first second after, inner ≠ before ++ .text first :: .text second :: after) ∧
      .text "" ∉ inner := by
  intro source events inner
  have hrun : run? source false {} events = some {
      blocks := [.paragraph [.strong inner, .text " cd"]]
      lastEnd := some 10 } := rfl
  have hfull : ∀ e ∈ events, e.event ≠ .text "" := by decide
  have hmem : [.strong inner, .text " cd"] ∈ State.contents {
      blocks := [.paragraph [.strong inner, .text " cd"]]
      lastEnd := some 10 } := List.mem_cons_of_mem _ List.mem_cons_self
  have hwithin : Within inner [.strong inner, .text " cd"] := .inside List.mem_cons_self .self
  obtain ⟨hapart, hempty⟩ := run?_contents_merged source {} events hrun _ hmem inner hwithin
  exact ⟨_, hrun, hfull, hmem, hwithin, hapart, hempty hfull⟩

end Folding

end Folio

import Folio.Proofs.Block.TreeRun
/-!
# The blocks of a stream

At the top level a passage emits its block, with a blank before it if the source has a blank line there,
and the machine is idle again. So the blocks of a written-out list of passages are, but for the blanks,
the meanings of the passages in order, and the machine ends with nothing open and nothing pending.

The only steps that could fail are cuts of the source, and all of them are at boundaries.
-/

namespace Folio

def Block.isBlank : Block → Bool
  | .blank => true
  | _ => false

/-- The blocks without the blanks between them. -/
def Block.visible (blocks : List Block) : List Block :=
  blocks.filter fun block => !block.isBlank

namespace Folding

open Folio.Tree State

variable {source : List Char} {breaks : Bool} {s : State}

/-- Nothing is open and nothing is pending. -/
structure State.Idle (s : State) : Prop where
  frames : s.frames = []
  containers : s.containers = []
  pending : s.pending = []
  code : s.code = ""
  rawDepth : s.rawDepth = 0

/-- The end of the passage before, if there was one, is a boundary of the source. -/
def State.EndFits (source : List Char) (s : State) : Prop :=
  ∀ stop, s.lastEnd = some stop → Text.IsBoundary source stop

/-- Between two boundaries the machine can tell whether a blank line lies. -/
theorem blankBefore?_isSome {lastEnd : Option Nat} {start : Nat}
    (hend : ∀ stop, lastEnd = some stop → Text.IsBoundary source stop)
    (hstart : Text.IsBoundary source start) :
    ∃ blank, blankBefore? source lastEnd start = some blank := by
  cases lastEnd with
  | none => exact ⟨false, rfl⟩
  | some stop =>
    obtain ⟨before, hbefore, hbegins, hlength⟩ :=
      Text.slice?_zero (Text.isBoundary_min (hend stop rfl) hstart)
    have hgapFits : Text.IsSlice source (Text.byteLength (Text.trimEnd before)) start :=
      Text.isSlice_trimEnd hbegins (by omega) hstart
    obtain ⟨gap, hgap⟩ := Option.isSome_iff_exists.mp (Text.slice?_isSome_iff.mpr hgapFits)
    refine ⟨decide (2 ≤ gap.count '\n'), ?_⟩
    rw [blankBefore?, hbefore, Option.bind_eq_bind, Option.bind_some, hgap]
    rfl

/-- What a passage emits: a blank if there was a blank line, then its block. -/
def emitted (blank : Bool) (block : Option Block) : List Block :=
  (if blank then [.blank] else []) ++ block.toList

theorem noteBlockStart?_of_blank {start : Nat} {blank : Bool}
    (hblank : blankBefore? source s.lastEnd start = some blank) :
    s.noteBlockStart? source start = some { s with blocks := s.blocks ++ emitted blank none } := by
  rw [noteBlockStart?, hblank]
  cases blank <;> simp [emitted, State.emit]

theorem State.Idle.step?_rule (hs : s.Idle) {span : Span} {blank : Bool}
    (hblank : blankBefore? source s.lastEnd span.start = some blank) :
    s.step? source breaks ⟨.rule, span⟩ = some { s with
      blocks := s.blocks ++ emitted blank (some .rule)
      lastEnd := some span.stop } := by
  have hempty : s.frames.isEmpty = true := by rw [hs.frames, List.isEmpty_nil]
  rw [step?, if_neg (by simp [hs.rawDepth])]
  show (if s.frames.isEmpty = true then (s.noteBlockStart? source span.start).bind _ else _) = _
  rw [if_pos hempty, noteBlockStart?_of_blank hblank]
  simp [emitted, State.emit]

theorem State.Idle.step?_start (hs : s.Idle) {tag : Tag} {span : Span} {blank : Bool}
    (hblank : blankBefore? source s.lastEnd span.start = some blank) :
    s.step? source breaks ⟨.start tag, span⟩ =
      some (openElement { s with blocks := s.blocks ++ emitted blank none } tag span.start) := by
  rw [State.step?_start hs.rawDepth, start?, if_pos (by rw [hs.frames, List.isEmpty_nil]),
    noteBlockStart?_of_blank hblank]
  rfl

/-- At the top level a passage is its block. -/
theorem run?_top (passage : Passage) (hs : s.Idle) (hfits : Fits source passage.write) {blank : Bool}
    (hblank : blankBefore? source s.lastEnd passage.start = some blank) :
    run? source breaks s passage.write = some { s with
      blocks := s.blocks ++ emitted blank (passage.block? source breaks)
      lastEnd := some passage.stop } := by
  cases passage with
  | rule span =>
    rw [Passage.write, run?_singleton, hs.step?_rule hblank]
    rfl
  | element opening closing body =>
    obtain ⟨blocks, frames, containers, pending, code, rawDepth, lastEnd⟩ := s
    obtain ⟨rfl, rfl, rfl, rfl, rfl⟩ := hs
    obtain ⟨hopening, hinside, hclosing⟩ := fits_enclose.mp hfits
    have hidle : State.Idle ⟨blocks, [], [], [], "", 0, lastEnd⟩ := ⟨rfl, rfl, rfl, rfl, rfl⟩
    rw [Passage.write, enclose, run?_cons, hidle.step?_start hblank, Option.bind_some,
      run?_body source breaks body ⟨rfl, rfl, rfl⟩ hopening hclosing hinside, Passage.block?]
    cases body.block? source breaks opening closing <;> simp [place, finishAt, emitted, State.emit, Passage.stop]

theorem Passage.start_fits {passage : Passage} (hfits : Fits source passage.write) :
    Text.IsBoundary source passage.start := by
  cases passage with
  | rule span => exact (hfits ⟨.rule, span⟩ List.mem_cons_self).1
  | element opening closing body => exact (fits_enclose.mp hfits).1.1

theorem Passage.stop_fits {passage : Passage} (hfits : Fits source passage.write) :
    Text.IsBoundary source passage.stop := by
  cases passage with
  | rule span => exact (hfits ⟨.rule, span⟩ List.mem_cons_self).2
  | element opening closing body => exact (fits_enclose.mp hfits).2.2.2

theorem block?_ne_blank (source : List Char) (breaks : Bool) (passage : Passage) :
    passage.block? source breaks ≠ some .blank := by
  cases passage with
  | rule span => simp [Passage.block?]
  | element opening closing body =>
    cases body <;> simp [Passage.block?, Body.block?]

theorem visible_emitted (source : List Char) (breaks : Bool) (blank : Bool) (passage : Passage) :
    Block.visible (emitted blank (passage.block? source breaks)) =
      (passage.block? source breaks).toList := by
  have hne := block?_ne_blank source breaks passage
  generalize passage.block? source breaks = meaning at hne ⊢
  rcases meaning with _ | block
  · cases blank <;> rfl
  · have hkept : block.isBlank = false := by cases block <;> simp_all [Block.isBlank]
    have hblank : Block.isBlank .blank = true := rfl
    cases blank <;> simp [emitted, Block.visible, hblank, hkept]

/-! ### Passages one after another -/

/-- What passages emit, if the block before the first of them ended at `last`. -/
def emissions (source : List Char) (breaks : Bool) : Option Nat → List Passage → List Block
  | _, [] => []
  | last, passage :: rest =>
    emitted ((blankBefore? source last passage.start).getD false) (passage.block? source breaks) ++
      emissions source breaks (some passage.stop) rest

/-- The end of the last of some passages, or of what came before them. -/
def lastStop (last : Option Nat) (passages : List Passage) : Option Nat :=
  passages.foldl (fun _ passage => some passage.stop) last

/-- From an idle state passages add what they emit, and the machine keeps where they end. -/
theorem run?_emissions (source : List Char) (breaks : Bool) (passages : List Passage) (hs : s.Idle)
    (hend : s.EndFits source) (hfits : Fits source (Passage.writeAll passages)) :
    run? source breaks s (Passage.writeAll passages) = some { s with
      blocks := s.blocks ++ emissions source breaks s.lastEnd passages
      lastEnd := lastStop s.lastEnd passages } := by
  -- Between two passages the machine is idle, and all that it keeps is a boundary of the source.
  induction passages generalizing s with
  | nil => simp [Passage.writeAll, run?, emissions, lastStop]
  | cons passage rest ih =>
    obtain ⟨hfirst, hrest⟩ := fits_append.mp hfits
    obtain ⟨blank, hblank⟩ := blankBefore?_isSome hend (Passage.start_fits hfirst)
    have hend' : ∀ stop, some passage.stop = some stop → Text.IsBoundary source stop := by
      rintro stop ⟨⟩
      exact Passage.stop_fits hfirst
    have hothers := ih (s := { s with
      blocks := s.blocks ++ emitted blank (passage.block? source breaks)
      lastEnd := some passage.stop }) ⟨hs.frames, hs.containers, hs.pending, hs.code, hs.rawDepth⟩ hend' hrest
    rw [Passage.writeAll, run?_append, run?_top passage hs hfirst hblank, Option.bind_some, hothers,
      emissions, hblank, Option.getD_some, List.append_assoc]
    rfl

/-- From the start the state after some passages is nothing but what they emit and where the last one
ends. -/
theorem run?_emissions_initial (source : List Char) (breaks : Bool) (passages : List Passage)
    (hfits : Fits source (Passage.writeAll passages)) :
    run? source breaks {} (Passage.writeAll passages) =
      some { blocks := emissions source breaks none passages, lastEnd := lastStop none passages } := by
  have hidle : State.Idle {} := ⟨rfl, rfl, rfl, rfl, rfl⟩
  have hend : State.EndFits source {} := by
    intro stop hstop
    cases hstop
  exact run?_emissions source breaks passages hidle hend hfits

theorem visible_emissions (source : List Char) (breaks : Bool) (last : Option Nat) (passages : List Passage) :
    Block.visible (emissions source breaks last passages) =
      passages.filterMap (Passage.block? source breaks) := by
  induction passages generalizing last with
  | nil => rfl
  | cons passage rest ih =>
    rw [emissions, Block.visible, List.filter_append, ← Block.visible, visible_emitted, ← Block.visible, ih]
    rcases hblock : passage.block? source breaks with _ | block <;> simp [hblock]

/-- From an idle state a list of passages adds its meaning, and the machine is idle again. -/
theorem run?_topLevel (source : List Char) (breaks : Bool) (passages : List Passage) (hs : s.Idle)
    (hend : s.EndFits source) (hfits : Fits source (Passage.writeAll passages)) :
    ∃ final, run? source breaks s (Passage.writeAll passages) = some final ∧ final.Idle ∧
      Block.visible final.blocks =
        Block.visible s.blocks ++ passages.filterMap (Passage.block? source breaks) := by
  refine ⟨_, run?_emissions source breaks passages hs hend hfits,
    ⟨hs.frames, hs.containers, hs.pending, hs.code, hs.rawDepth⟩, ?_⟩
  rw [Block.visible, List.filter_append, ← Block.visible, ← Block.visible, visible_emissions]

/-- **The machine computes the meaning of the tree.** Over the stream of any list of passages whose
ranges fit the source, the fold ends with nothing open and nothing pending, and its blocks are, but for
the blanks, the blocks that the passages mean. -/
theorem run?_writeAll_meaning (source : List Char) (dialect : Dialect) (passages : List Passage)
    (hfits : Fits source (Passage.writeAll passages)) :
    ∃ final, run? source dialect.breaks {} (Passage.writeAll passages) = some final ∧
      final.frames = [] ∧ final.containers = [] ∧ final.pending = [] ∧ final.rawDepth = 0 ∧
      Block.visible final.blocks = passages.filterMap (Passage.block? source dialect.breaks) := by
  obtain ⟨final, hrun, hidle, hblocks⟩ := run?_topLevel source dialect.breaks passages
    (s := {}) ⟨rfl, rfl, rfl, rfl, rfl⟩ (by rintro stop ⟨⟩) hfits
  exact ⟨final, hrun, hidle.frames, hidle.containers, hidle.pending, hidle.rawDepth, by
    simpa [Block.visible] using hblocks⟩

/-- A tight item around a rule and a quote: the rule leaves no trace, the quote is set apart. -/
theorem run?_writeAll_meaning_tightItem :
    let source := "- a\n  ***\n  b\n  > c".toList
    let passages : List Passage := [.element ⟨0, 19⟩ ⟨0, 19⟩ (.list none [.item ⟨0, 19⟩ ⟨0, 19⟩ [
      .phrase (.leaf (.text "a") ⟨2, 3⟩), .passage (.rule ⟨6, 9⟩), .phrase (.leaf (.text "b") ⟨12, 13⟩),
      .passage (.element ⟨16, 19⟩ ⟨16, 19⟩ (.quote [.element ⟨18, 19⟩ ⟨18, 19⟩
        (.paragraph [.leaf (.text "c") ⟨18, 19⟩])]))]])]
    Fits source (Passage.writeAll passages) ∧
      ∃ final, run? source true {} (Passage.writeAll passages) = some final ∧
        final.frames = [] ∧ final.containers = [] ∧ final.pending = [] ∧ final.rawDepth = 0 ∧
        Block.visible final.blocks = [.list false [[.text "ab", .lineBreak, .text "c"]]] := by
  intro source passages
  have hfits : Fits source (Passage.writeAll passages) := by decide
  exact ⟨hfits, run?_writeAll_meaning source { breaks := true } passages hfits⟩

end Folding

end Folio

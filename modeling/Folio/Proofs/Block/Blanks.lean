import Folio.Proofs.Block.TopLevel
/-!
# Where the blanks stand

A blank is emitted when a passage starts, before it is known whether the passage shows anything. So a
blank stands directly in front of the block of the passage that it was emitted for, if that passage has a
block, and from this it follows that the blanks stand between blocks: none at the beginning, because
nothing ends before the first passage, none at the end and no two in a row.

Paragraphs and quotes without content have no block. The blank in front of one is left without it, and
comes to stand in front of the next blank, or at the end. That is the only way in which a blank can be out
of place, and a list of passages is given that shows it.
-/

namespace Folio

/-- Blanks stand between two other blocks each. -/
structure Block.BlanksBetween (blocks : List Block) : Prop where
  first : blocks.head? ≠ some .blank
  last : blocks.getLast? ≠ some .blank
  apart : ∀ before after, blocks ≠ before ++ .blank :: .blank :: after

namespace Folding

open Folio.Tree State

variable {source : List Char} {breaks : Bool}

/-- The blank of a passage is the first that it emits, and its block is all that follows. -/
theorem emitted_eq_append_blank {blank : Bool} {block : Option Block} (hblock : block ≠ some .blank)
    {before after : List Block} (hsplit : emitted blank block = before ++ .blank :: after) :
    blank = true ∧ before = [] ∧ after = block.toList := by
  have hnone : ∀ front, block.toList ≠ front ++ .blank :: after := by
    intro front heq
    have hmem : Block.blank ∈ block.toList := by simp [heq]
    exact hblock (Option.mem_toList.mp hmem)
  cases blank with
  | false => exact absurd hsplit (hnone before)
  | true =>
    have htrue : emitted true block = .blank :: block.toList := rfl
    rw [htrue] at hsplit
    cases before with
    | nil =>
      obtain ⟨-, hafter⟩ := List.cons.inj hsplit
      exact ⟨rfl, rfl, hafter.symm⟩
    | cons first front =>
      obtain ⟨-, hrest⟩ := List.cons.inj hsplit
      exact absurd hrest (hnone front)

/-- Every blank is that of one passage: what stands before it comes from the passages before, and behind it
stands first the block of that passage. -/
theorem emissions_eq_append_blank {last : Option Nat} {passages : List Passage} {before after : List Block}
    (hsplit : emissions source breaks last passages = before ++ .blank :: after) :
    ∃ earlier passage later, passages = earlier ++ passage :: later ∧
      emissions source breaks last earlier = before ∧
      blankBefore? source (lastStop last earlier) passage.start = some true ∧
      after = (passage.block? source breaks).toList ++
        emissions source breaks (some passage.stop) later := by
  induction passages generalizing last before with
  | nil => simp [emissions] at hsplit
  | cons passage rest ih =>
    have hblock := block?_ne_blank source breaks passage
    rw [emissions] at hsplit
    rcases List.append_eq_append_iff.mp hsplit with ⟨more, rfl, hrest⟩ | ⟨more, hown, hrest⟩
    · obtain ⟨earlier, other, later, rfl, hearlier, hblank, hafter⟩ := ih hrest
      refine ⟨passage :: earlier, other, later, rfl, ?_, hblank, hafter⟩
      rw [emissions, hearlier]
    · cases more with
      | nil =>
        have hnext : emissions source breaks (some passage.stop) rest = [] ++ .blank :: after := hrest.symm
        obtain ⟨earlier, other, later, rfl, hearlier, hblank, hafter⟩ := ih hnext
        refine ⟨passage :: earlier, other, later, rfl, ?_, hblank, hafter⟩
        rw [emissions, hearlier, hown, List.append_nil, List.append_nil]
      | cons first more =>
        obtain ⟨rfl, rfl⟩ := List.cons.inj hrest
        obtain ⟨hblank, rfl, rfl⟩ := emitted_eq_append_blank hblock hown
        refine ⟨[], passage, rest, rfl, rfl, ?_, rfl⟩
        rw [lastStop, List.foldl_nil]
        rcases hannounced : blankBefore? source last passage.start with _ | blank
        · rw [hannounced] at hblank
          cases hblank
        · rw [hannounced, Option.getD_some] at hblank
          rw [hblank]

theorem block?_of_emissions_eq_nil {last : Option Nat} {passages : List Passage}
    (hempty : emissions source breaks last passages = []) :
    ∀ passage ∈ passages, passage.block? source breaks = none := by
  induction passages generalizing last with
  | nil => simp
  | cons passage rest ih =>
    obtain ⟨hown, hrest⟩ := List.append_eq_nil_iff.mp hempty
    have hblock := (List.append_eq_nil_iff.mp hown).2
    exact List.forall_mem_cons.mpr ⟨by simpa using hblock, ih hrest⟩

/-- A blank at the beginning comes behind passages without a block. -/
theorem block?_of_head?_blank {passages : List Passage}
    (hhead : (emissions source breaks none passages).head? = some .blank) :
    ∃ passage, passages.head? = some passage ∧ passage.block? source breaks = none := by
  obtain ⟨after, hsplit⟩ := List.head?_eq_some_iff.mp hhead
  have hfront : emissions source breaks none passages = [] ++ .blank :: after := hsplit
  obtain ⟨earlier, passage, later, rfl, hearlier, hblank, -⟩ := emissions_eq_append_blank hfront
  cases earlier with
  | nil => simp [lastStop, blankBefore?] at hblank
  | cons first others => exact ⟨first, rfl, block?_of_emissions_eq_nil hearlier first List.mem_cons_self⟩

/-- A blank at the end comes in front of passages without a block. -/
theorem block?_of_getLast?_blank {last : Option Nat} {passages : List Passage}
    (hlast : (emissions source breaks last passages).getLast? = some .blank) :
    ∃ passage, passages.getLast? = some passage ∧ passage.block? source breaks = none := by
  obtain ⟨before, hsplit⟩ := List.getLast?_eq_some_iff.mp hlast
  obtain ⟨earlier, passage, later, rfl, -, -, hafter⟩ := emissions_eq_append_blank hsplit
  obtain ⟨hown, hlater⟩ := List.append_eq_nil_iff.mp hafter.symm
  have hnone : ∀ other ∈ passage :: later, other.block? source breaks = none :=
    List.forall_mem_cons.mpr ⟨by simpa using hown, block?_of_emissions_eq_nil hlater⟩
  have hfinal := List.getLast?_eq_some_getLast (List.cons_ne_nil passage later)
  rw [List.getLast?_append, hfinal, Option.some_or]
  exact ⟨_, rfl, hnone _ (List.mem_of_getLast? hfinal)⟩

/-- Of two blanks in a row the first is that of a passage without a block. -/
theorem block?_of_blank_blank {last : Option Nat} {passages : List Passage} {before after : List Block}
    (hsplit : emissions source breaks last passages = before ++ .blank :: .blank :: after) :
    ∃ earlier passage later, passages = earlier ++ passage :: later ∧
      emissions source breaks last earlier = before ∧ passage.block? source breaks = none := by
  obtain ⟨earlier, passage, later, hpassages, hearlier, -, hafter⟩ := emissions_eq_append_blank hsplit
  refine ⟨earlier, passage, later, hpassages, hearlier, ?_⟩
  rcases hblock : passage.block? source breaks with _ | block
  · rfl
  · rw [hblock, Option.toList_some, List.singleton_append] at hafter
    obtain ⟨rfl, -⟩ := List.cons.inj hafter
    exact absurd hblock (block?_ne_blank source breaks passage)

/-- **Blanks stand between blocks, but for passages that show nothing.** Over the stream of any passages
whose ranges fit the source: if each of the passages has a block, no blank comes first, none comes last
and no two come in a row. In general a blank comes first only if the first passage has no block, one
comes last only if the last passage has none, and where two come in a row the first of them was emitted
for a passage that has none, when what stands before it had come from the passages before. -/
theorem run?_blanks_between (source : List Char) (dialect : Dialect) (passages : List Passage)
    (hfits : Fits source (Passage.writeAll passages)) :
    ∃ final, run? source dialect.breaks {} (Passage.writeAll passages) = some final ∧
      ((∀ passage ∈ passages, passage.block? source dialect.breaks ≠ none) →
        Block.BlanksBetween final.blocks) ∧
      (final.blocks.head? = some .blank →
        ∃ passage, passages.head? = some passage ∧ passage.block? source dialect.breaks = none) ∧
      (final.blocks.getLast? = some .blank →
        ∃ passage, passages.getLast? = some passage ∧ passage.block? source dialect.breaks = none) ∧
      (∀ before after, final.blocks = before ++ .blank :: .blank :: after →
        ∃ earlier passage later s, passages = earlier ++ passage :: later ∧
          run? source dialect.breaks {} (Passage.writeAll earlier) = some s ∧ s.blocks = before ∧
          passage.block? source dialect.breaks = none) := by
  refine ⟨_, run?_emissions_initial source dialect.breaks passages hfits, ?_, ?_, ?_, ?_⟩
  · intro hshown
    refine ⟨?_, ?_, ?_⟩
    · intro hhead
      obtain ⟨passage, hpassage, hnone⟩ := block?_of_head?_blank hhead
      exact hshown passage (List.mem_of_head? hpassage) hnone
    · intro hlast
      obtain ⟨passage, hpassage, hnone⟩ := block?_of_getLast?_blank hlast
      exact hshown passage (List.mem_of_getLast? hpassage) hnone
    · intro before after hsplit
      obtain ⟨earlier, passage, later, rfl, -, hnone⟩ := block?_of_blank_blank hsplit
      exact hshown passage (by simp) hnone
  · exact block?_of_head?_blank
  · exact block?_of_getLast?_blank
  · intro before after hsplit
    obtain ⟨earlier, passage, later, rfl, hearlier, hnone⟩ := block?_of_blank_blank hsplit
    have hwritten : Fits source (Passage.writeAll earlier) := by
      rw [Passage.writeAll_append] at hfits
      exact (fits_append.mp hfits).1
    exact ⟨earlier, passage, later, _, rfl,
      run?_emissions_initial source dialect.breaks earlier hwritten, hearlier, hnone⟩

/-- A rule between two blank lines of which the first is double, and a list whose only item is empty. -/
theorem run?_blanks_between_emptyItem :
    let source := "a\n\n\n***\n\n-".toList
    let passages : List Passage := [.element ⟨0, 2⟩ ⟨0, 2⟩ (.paragraph [.leaf (.text "a") ⟨0, 1⟩]),
      .rule ⟨4, 8⟩, .element ⟨9, 10⟩ ⟨9, 10⟩ (.list none [.item ⟨9, 10⟩ ⟨9, 10⟩ []])]
    Fits source (Passage.writeAll passages) ∧
      ∃ final, run? source false {} (Passage.writeAll passages) = some final ∧
        final.blocks = [.paragraph [.text "a"], .blank, .rule, .blank, .list false [[]]] ∧
        Block.BlanksBetween final.blocks := by
  intro source passages
  have hfits : Fits source (Passage.writeAll passages) := by decide
  have hshown : ∀ passage ∈ passages, passage.block? source false ≠ none := by
    intro passage hmem
    simp only [passages, List.mem_cons, List.not_mem_nil, or_false] at hmem
    obtain rfl | rfl | rfl := hmem <;> exact Option.some_ne_none _
  obtain ⟨final, hrun, hbetween, -⟩ := run?_blanks_between source {} passages hfits
  have hfinal : final.blocks = [.paragraph [.text "a"], .blank, .rule, .blank, .list false [[]]] := by
    obtain rfl := Option.some.inj hrun
    rfl
  exact ⟨hfits, final, hrun, hfinal, hbetween hshown⟩

/-- A quote without content takes nothing but its blank, and two blanks come in a row. -/
theorem emptyQuote_doubles_blank :
    let source := "a\n\n>\n\nb".toList
    let passages : List Passage := [.element ⟨0, 2⟩ ⟨0, 2⟩ (.paragraph [.leaf (.text "a") ⟨0, 1⟩]),
      .element ⟨3, 5⟩ ⟨3, 5⟩ (.quote []), .element ⟨6, 7⟩ ⟨6, 7⟩ (.paragraph [.leaf (.text "b") ⟨6, 7⟩])]
    Fits source (Passage.writeAll passages) ∧
      passages.Pairwise (fun first second => first.stop ≤ second.start) ∧
      ∃ final, run? source false {} (Passage.writeAll passages) = some final ∧
        final.blocks = [.paragraph [.text "a"], .blank, .blank, .paragraph [.text "b"]] ∧
        ¬ Block.BlanksBetween final.blocks := by
  intro source passages
  have hfits : Fits source (Passage.writeAll passages) := by decide
  have hordered : passages.Pairwise (fun first second => first.stop ≤ second.start) := by
    simp [passages, Passage.start, Passage.stop]
  refine ⟨hfits, hordered, _, rfl, rfl, ?_⟩
  intro hbetween
  exact hbetween.apart [.paragraph [.text "a"]] [.paragraph [.text "b"]] rfl

end Folding

end Folio

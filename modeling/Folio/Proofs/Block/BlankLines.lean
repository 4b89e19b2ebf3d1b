import Folio.Proofs.Block.Emission
import Folio.Proofs.Block.TopLevel
import Folio.Proofs.Text.Lines
/-!
# Which blank lines are noticed

The gap in front of a block reaches from the last visible character up to the end of the block before to
where the block starts. The machine puts a blank there if the gap has two line feeds.

A gap mostly consists of blanks and its lines end with line feeds, and then two line feeds are the same as
a blank line. But the gap may hold source that no event was made of, such as the definition of a link, and
its lines may end with carriage returns. So each direction has a condition of its own: a blank stands for
a blank line if nothing visible is in the gap, and a blank line is noticed if no carriage return in the
gap ends a line alone. Neither can be left out.
-/

namespace Folio

namespace Text

variable {source before blanks : List Char} {stop start : Nat}

/-- What lies between the last visible character up to `stop` and `start`: `seen` ends with that
character, only blanks follow it up to `stop`, and `after` follows up to `start`. -/
structure Gap (source : List Char) (stop start : Nat) where
  seen : List Char
  blanks : List Char
  after : List Char
  rest : List Char
  source_eq : source = seen ++ (blanks ++ after) ++ rest
  seen_visible : ∃ c, seen.getLast? = some c ∧ isBlank c = false
  blanks_blank : ∀ c ∈ blanks, isBlank c = true
  stop_eq : byteLength (seen ++ blanks) = stop
  start_eq : byteLength (seen ++ (blanks ++ after)) = start

/-- Something visible stands in a text before an offset. -/
def VisibleBefore (source : List Char) (stop : Nat) : Prop :=
  ∃ before, before <+: source ∧ byteLength before = stop ∧ ∃ c ∈ before, isBlank c = false

def Gap.text (gap : Gap source stop start) : List Char :=
  gap.blanks ++ gap.after

theorem trimEnd_append_blanks (hvisible : ∃ c, before.getLast? = some c ∧ isBlank c = false)
    (hblank : ∀ c ∈ blanks, isBlank c = true) : trimEnd (before ++ blanks) = before := by
  obtain ⟨c, hlast, hc⟩ := hvisible
  obtain ⟨front, rfl⟩ := List.getLast?_eq_some_iff.mp hlast
  have hreverse : ∀ c ∈ blanks.reverse, isBlank c = true := by
    intro c hmem
    exact hblank c (List.mem_reverse.mp hmem)
  rw [trimEnd, List.reverse_append, List.dropWhile_append_of_pos hreverse, List.reverse_append,
    List.reverse_singleton, List.singleton_append, List.dropWhile_cons_of_neg (by simp [hc]),
    List.reverse_cons, List.reverse_reverse]

/-- A text with a visible character ends with its last one and blanks. -/
theorem exists_last_visible (hvisible : ∃ c ∈ before, isBlank c = false) :
    ∃ seen blanks, before = seen ++ blanks ∧ (∃ c, seen.getLast? = some c ∧ isBlank c = false) ∧
      ∀ c ∈ blanks, isBlank c = true := by
  induction before using List.reverseRecOn with
  | nil => simp at hvisible
  | append_singleton front last ih =>
    by_cases hlast : isBlank last = true
    · obtain ⟨c, hc, hcv⟩ := hvisible
      have hfront : c ∈ front := by
        rcases List.mem_append.mp hc with hfront | hend
        · exact hfront
        · rw [List.mem_singleton.mp hend, hlast] at hcv
          cases hcv
      obtain ⟨seen, blanks, rfl, hseen, hblanks⟩ := ih ⟨c, hfront, hcv⟩
      refine ⟨seen, blanks ++ [last], List.append_assoc .., hseen, ?_⟩
      exact List.forall_mem_append.mpr ⟨hblanks, by simpa using hlast⟩
    · exact ⟨front ++ [last], [], (List.append_nil _).symm, ⟨last, List.getLast?_concat, by simpa using hlast⟩,
        by simp⟩

/-- In front of a boundary there is a gap, if something visible stands before where it may begin. -/
theorem exists_gap (hvisible : VisibleBefore source stop) (hstart : IsBoundary source start)
    (hle : stop ≤ start) : Nonempty (Gap source stop start) := by
  obtain ⟨before, hbefore, rfl, hmem⟩ := hvisible
  obtain ⟨upTo, rest, rfl, rfl⟩ := hstart
  obtain ⟨after, rfl⟩ := prefix_of_byteLength_le hbefore (List.prefix_append upTo rest) hle
  obtain ⟨seen, blanks, rfl, hseen, hblanks⟩ := exists_last_visible hmem
  refine ⟨⟨seen, blanks, after, rest, ?_, hseen, hblanks, rfl, ?_⟩⟩
  · rw [List.append_assoc seen]
  · rw [List.append_assoc]

end Text

namespace Folding

open Folio.Tree State

variable {source : List Char} {s : State}

/-- The machine looks at the gap, and counts its line feeds. -/
theorem blankBefore?_of_gap {stop start : Nat} (gap : Text.Gap source stop start) :
    blankBefore? source (some stop) start = some (decide (2 ≤ gap.text.count '\n')) := by
  obtain ⟨seen, blanks, after, rest, rfl, hvisible, hblank, rfl, rfl⟩ := gap
  have hmin : min (Text.byteLength (seen ++ blanks)) (Text.byteLength (seen ++ (blanks ++ after))) =
      Text.byteLength (seen ++ blanks) := by
    rw [← List.append_assoc, Text.byteLength_append (seen ++ blanks)]
    exact Nat.min_eq_left (Nat.le_add_right _ _)
  have hbefore : Text.slice? (seen ++ (blanks ++ after) ++ rest) 0 (Text.byteLength (seen ++ blanks)) =
      some (seen ++ blanks) := by
    have hcut := Text.slice?_append [] (seen ++ blanks) (after ++ rest)
    simpa [Text.byteLength] using hcut
  rw [blankBefore?, hmin, hbefore, Option.bind_eq_bind, Option.bind_some,
    Text.trimEnd_append_blanks hvisible hblank, Text.slice?_append]
  rfl

/-- The first event of a passage at the top level notes the blank. -/
theorem step?_first (breaks : Bool) (passage : Passage) (hs : s.Idle) {blank : Bool}
    (hblank : blankBefore? source s.lastEnd passage.start = some blank) :
    ∃ first rest next block, passage.write = first :: rest ∧ s.step? source breaks first = some next ∧
      next.blocks = s.blocks ++ emitted blank block ∧ block ≠ some .blank := by
  cases passage with
  | rule span =>
    exact ⟨_, [], _, some .rule, rfl, hs.step?_rule hblank, rfl, by simp⟩
  | element opening closing body =>
    exact ⟨_, body.write ++ [⟨.stop, closing⟩], _, none, rfl, hs.step?_start hblank,
      openElement_blocks _ _, by simp⟩

/-- Behind some passages the machine is idle, and it keeps where the last of them ends. -/
theorem run?_idle_after (breaks : Bool) (earlier : List Passage) (previous : Passage)
    (hfits : Fits source (Passage.writeAll (earlier ++ [previous]))) :
    ∃ s, run? source breaks {} (Passage.writeAll (earlier ++ [previous])) = some s ∧ s.Idle ∧
      s.lastEnd = some previous.stop := by
  refine ⟨_, run?_emissions_initial source breaks (earlier ++ [previous]) hfits,
    ⟨rfl, rfl, rfl, rfl, rfl⟩, ?_⟩
  rw [lastStop, List.foldl_append]
  rfl

/-- **Which blanks are noted.** Over the stream of any passages whose ranges fit the source, let one
passage come directly behind another that has something visible before its end. Then there is a gap
between the two, and the first event of the second notes a blank exactly if the gap has two line feeds.
If nothing visible is in the gap, a blank that is noted stands for a blank line; if no line in the gap
ends with a carriage return alone, every blank line is noted. -/
theorem run?_notes_blank_line (source : List Char) (dialect : Dialect) (earlier later : List Passage)
    (previous passage : Passage)
    (hfits : Fits source (Passage.writeAll (earlier ++ previous :: passage :: later)))
    (hordered : previous.stop ≤ passage.start) (hvisible : Text.VisibleBefore source previous.stop) :
    Nonempty (Text.Gap source previous.stop passage.start) ∧
    ∀ gap : Text.Gap source previous.stop passage.start, ∃ s first rest next blank block,
      run? source dialect.breaks {} (Passage.writeAll (earlier ++ [previous])) = some s ∧
      passage.write = first :: rest ∧ s.step? source dialect.breaks first = some next ∧
      next.blocks = s.blocks ++ emitted blank block ∧ block ≠ some .blank ∧
      (blank = true ↔ 2 ≤ gap.text.count '\n') ∧
      ((∀ c ∈ gap.text, Text.isBlank c = true) → blank = true → Text.HasBlankLine gap.text) ∧
      (Text.loneReturns gap.text = 0 → Text.HasBlankLine gap.text → blank = true) := by
  have hsplit : earlier ++ previous :: passage :: later = (earlier ++ [previous]) ++ passage :: later := by
    rw [List.append_assoc, List.singleton_append]
  rw [hsplit, Passage.writeAll_append] at hfits
  obtain ⟨hread, hunread⟩ := fits_append.mp hfits
  have hstart : Text.IsBoundary source passage.start := Passage.start_fits (fits_append.mp hunread).1
  refine ⟨Text.exists_gap hvisible hstart hordered, ?_⟩
  intro gap
  obtain ⟨s, hrun, hidle, hlast⟩ := run?_idle_after dialect.breaks earlier previous hread
  have hblank : blankBefore? source s.lastEnd passage.start = some (decide (2 ≤ gap.text.count '\n')) := by
    rw [hlast]
    exact blankBefore?_of_gap gap
  obtain ⟨first, rest, next, block, hwrite, hstep, hblocks, hblock⟩ :=
    step?_first dialect.breaks passage hidle hblank
  refine ⟨s, first, rest, next, _, block, hrun, hwrite, hstep, hblocks, hblock, decide_eq_true_iff, ?_, ?_⟩
  · intro honly hnoted
    apply Text.hasBlankLine_of_blank honly
    exact Nat.le_add_right_of_le (of_decide_eq_true hnoted)
  · intro hreturns hline
    have htwo := hline.two_le
    rw [hreturns, Nat.add_zero] at htwo
    exact decide_eq_true htwo

/-- A heading and a quote with a line of two blanks between them. -/
theorem run?_notes_blank_line_mixedEnds :
    let source := "# a \n \t\r\n> b".toList
    let previous : Passage := .element ⟨0, 5⟩ ⟨0, 5⟩ (.heading 1 [.leaf (.text "a") ⟨2, 3⟩])
    let passage : Passage := .element ⟨9, 12⟩ ⟨9, 12⟩ (.quote [.element ⟨11, 12⟩ ⟨11, 12⟩
      (.paragraph [.leaf (.text "b") ⟨11, 12⟩])])
    Fits source (Passage.writeAll [previous, passage]) ∧ previous.stop ≤ passage.start ∧
      Text.VisibleBefore source previous.stop ∧
      ∃ gap : Text.Gap source previous.stop passage.start, gap.text = " \n \t\r\n".toList ∧
        Text.HasBlankLine gap.text ∧ Text.loneReturns gap.text = 0 ∧
        ∃ s first rest next block,
          run? source false {} (Passage.writeAll [previous]) = some s ∧
          passage.write = first :: rest ∧ s.step? source false first = some next ∧
          next.blocks = s.blocks ++ emitted true block ∧ block ≠ some .blank := by
  intro source previous passage
  have hfits : Fits source (Passage.writeAll [previous, passage]) := by decide
  have hordered : previous.stop ≤ passage.start := by decide
  have hvisible : Text.VisibleBefore source previous.stop :=
    ⟨"# a \n".toList, ⟨" \t\r\n> b".toList, rfl⟩, rfl, '#', List.mem_cons_self, rfl⟩
  let gap : Text.Gap source previous.stop passage.start :=
    { seen := "# a".toList, blanks := [' ', '\n'], after := " \t\r\n".toList, rest := "> b".toList
      source_eq := rfl, seen_visible := ⟨'a', rfl, rfl⟩, blanks_blank := by simp [Text.isBlank]
      stop_eq := rfl, start_eq := rfl }
  have hline : Text.HasBlankLine gap.text := by decide
  have hreturns : Text.loneReturns gap.text = 0 := rfl
  obtain ⟨s, first, rest, next, blank, block, hrun, hwrite, hstep, hblocks, hblock, -, -, hnoted⟩ :=
    (run?_notes_blank_line source {} [] [] previous passage hfits hordered hvisible).2 gap
  obtain rfl := hnoted hreturns hline
  exact ⟨hfits, hordered, hvisible, gap, rfl, hline, hreturns, s, first, rest, next, block, hrun, hwrite,
    hstep, hblocks, hblock⟩

/-- A line that a carriage return alone ends is not noticed, and a definition with its line end is taken
for a blank line. -/
theorem feeds_are_no_blank_lines :
    (let source := "a\r\rb".toList
      let previous : Passage := .element ⟨0, 2⟩ ⟨0, 2⟩ (.paragraph [.leaf (.text "a") ⟨0, 1⟩])
      let passage : Passage := .element ⟨3, 4⟩ ⟨3, 4⟩ (.paragraph [.leaf (.text "b") ⟨3, 4⟩])
      Fits source (Passage.writeAll [previous, passage]) ∧
        ∃ gap : Text.Gap source previous.stop passage.start, Text.HasBlankLine gap.text ∧
        ∃ final, run? source false {} (Passage.writeAll [previous, passage]) = some final ∧
          final.blocks = [.paragraph [.text "a"], .paragraph [.text "b"]]) ∧
    (let source := "# a\n[x]: /u\nb".toList
      let previous : Passage := .element ⟨0, 4⟩ ⟨0, 4⟩ (.heading 1 [.leaf (.text "a") ⟨2, 3⟩])
      let passage : Passage := .element ⟨12, 13⟩ ⟨12, 13⟩ (.paragraph [.leaf (.text "b") ⟨12, 13⟩])
      Fits source (Passage.writeAll [previous, passage]) ∧
        ∃ gap : Text.Gap source previous.stop passage.start, ¬ Text.HasBlankLine gap.text ∧
        ∃ final, run? source false {} (Passage.writeAll [previous, passage]) = some final ∧
          final.blocks = [.heading 1 [.text "a"], .blank, .paragraph [.text "b"]]) := by
  constructor
  · intro source previous passage
    let gap : Text.Gap source previous.stop passage.start :=
      { seen := ['a'], blanks := ['\r'], after := ['\r'], rest := ['b']
        source_eq := rfl, seen_visible := ⟨'a', rfl, rfl⟩, blanks_blank := by simp [Text.isBlank]
        stop_eq := rfl, start_eq := rfl }
    have hline : Text.HasBlankLine gap.text := by decide
    exact ⟨by decide, gap, hline, _, rfl, rfl⟩
  · intro source previous passage
    let gap : Text.Gap source previous.stop passage.start :=
      { seen := "# a".toList, blanks := ['\n'], after := "[x]: /u\n".toList, rest := ['b']
        source_eq := rfl, seen_visible := ⟨'a', rfl, rfl⟩, blanks_blank := by simp [Text.isBlank]
        stop_eq := rfl, start_eq := rfl }
    have hline : ¬ Text.HasBlankLine gap.text := by decide
    exact ⟨by decide, gap, hline, _, rfl, rfl⟩

end Folding

end Folio

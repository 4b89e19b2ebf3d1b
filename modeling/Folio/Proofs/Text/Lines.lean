import Folio.Markdown.Scan
import Folio.Proofs.Text.Boundary
/-!
# Blank lines

A line ends with a line feed, a carriage return, or the two together. A text that is cut out of another
begins somewhere in a line and ends somewhere in a line, so of its pieces only those between two line ends
are lines, and it has a blank line if one of them holds nothing but blanks.

Counting line feeds is a way to look for a blank line: a second line feed in a text of blanks closes one.
It fails in two ways. Where something visible stands between the line feeds there need be no blank line,
and where a carriage return alone ends a line there may be one that is not counted.
-/

namespace Folio.Text

variable {text : List Char}

/-- The first line of a text and the lines behind it, without their ends. -/
def splitLines : List Char → List Char × List (List Char)
  | [] => ([], [])
  | '\r' :: '\n' :: rest => ([], (splitLines rest).1 :: (splitLines rest).2)
  | c :: rest =>
    if Markdown.isLineEnd c then ([], (splitLines rest).1 :: (splitLines rest).2)
    else (c :: (splitLines rest).1, (splitLines rest).2)

/-- The lines that have both their beginning and their end in a text. -/
def innerLines (text : List Char) : List (List Char) :=
  (splitLines text).2.dropLast

def HasBlankLine (text : List Char) : Prop :=
  ∃ line ∈ innerLines text, ∀ c ∈ line, isBlank c = true

instance (text : List Char) : Decidable (HasBlankLine text) :=
  decidable_of_iff ((innerLines text).any (·.all isBlank) = true) (by simp [HasBlankLine])

/-- How many carriage returns end a line by themselves. -/
def loneReturns : List Char → Nat
  | [] => 0
  | '\r' :: '\n' :: rest => loneReturns rest
  | c :: rest => (if c = '\r' then 1 else 0) + loneReturns rest

theorem isLineEnd_iff {c : Char} : Markdown.isLineEnd c = true ↔ c = '\n' ∨ c = '\r' := by
  simp [Markdown.isLineEnd]

/-- A line ends at a line feed, or at a carriage return alone, and nowhere else. -/
theorem length_splitLines (text : List Char) :
    (splitLines text).2.length = text.count '\n' + loneReturns text := by
  induction text using splitLines.induct with
  | case1 => rfl
  | case2 rest ih =>
    have hcount : ('\r' :: '\n' :: rest).count '\n' = rest.count '\n' + 1 := by simp
    rw [splitLines, List.length_cons, ih, hcount, loneReturns]
    omega
  | case3 c rest hpair hend ih =>
    rw [splitLines, if_pos hend, List.length_cons, ih, loneReturns]
    · obtain rfl | rfl := isLineEnd_iff.mp hend
      · rw [List.count_cons_self, if_neg (by decide)]
        omega
      · rw [List.count_cons_of_ne (by decide), if_pos rfl]
        omega
    · exact hpair
    · exact hpair
  | case4 c rest hpair hinside ih =>
    rw [isLineEnd_iff, not_or] at hinside
    rw [splitLines, if_neg (by rwa [isLineEnd_iff, not_or]), ih, loneReturns]
    · rw [List.count_cons_of_ne hinside.1, if_neg hinside.2, Nat.zero_add]
    · exact hpair
    · exact hpair

/-- The characters of the lines are characters of the text. -/
theorem splitLines_subset (text : List Char) :
    ∀ line ∈ (splitLines text).1 :: (splitLines text).2, line ⊆ text := by
  induction text using splitLines.induct with
  | case1 => simp [splitLines]
  | case2 rest ih =>
    rw [splitLines]
    refine List.forall_mem_cons.mpr ⟨List.nil_subset _, ?_⟩
    intro line hline
    exact List.subset_cons_of_subset _ (List.subset_cons_of_subset _ (ih line hline))
  | case3 c rest hpair hend ih =>
    rw [splitLines, if_pos hend]
    · refine List.forall_mem_cons.mpr ⟨List.nil_subset _, ?_⟩
      intro line hline
      exact List.subset_cons_of_subset c (ih line hline)
    · exact hpair
  | case4 c rest hpair hinside ih =>
    obtain ⟨hfirst, hlines⟩ := List.forall_mem_cons.mp ih
    rw [splitLines, if_neg hinside]
    · refine List.forall_mem_cons.mpr ⟨List.cons_subset_cons c hfirst, ?_⟩
      intro line hline
      exact List.subset_cons_of_subset c (hlines line hline)
    · exact hpair

/-- Two line ends in a text of blanks have a blank line between them. -/
theorem hasBlankLine_of_blank (hblank : ∀ c ∈ text, isBlank c = true)
    (htwo : 2 ≤ text.count '\n' + loneReturns text) : HasBlankLine text := by
  rw [← length_splitLines] at htwo
  have hlines := splitLines_subset text
  rcases hsplit : (splitLines text).2 with _ | ⟨line, _ | ⟨next, others⟩⟩
  · simp [hsplit] at htwo
  · simp [hsplit] at htwo
  · refine ⟨line, ?_, ?_⟩
    · rw [innerLines, hsplit, List.dropLast_cons_cons]
      exact List.mem_cons_self
    · have hline : line ⊆ text := by
        apply hlines line
        rw [hsplit]
        exact List.mem_cons_of_mem _ List.mem_cons_self
      intro c hc
      exact hblank c (hline hc)

/-- A line that is blank stands between two line ends. -/
theorem HasBlankLine.two_le (h : HasBlankLine text) : 2 ≤ text.count '\n' + loneReturns text := by
  obtain ⟨line, hline, -⟩ := h
  have hpos : 0 < (innerLines text).length := List.length_pos_of_mem hline
  rw [innerLines, List.length_dropLast, length_splitLines] at hpos
  omega

end Folio.Text

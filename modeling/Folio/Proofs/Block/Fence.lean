import Folio.Block.Frontmatter
import Folio.Proofs.Text.Boundary
/-!
# Texts with a block of metadata

A text with leading metadata is written out here by its parts: the opening fence and its line end, the
lines up to the closing fence, the closing fence and what ends it, the line ends that follow, and what
remains. `Fenced.text` puts the parts together.

Reading such a text finds the parts again, because each of them ends where it must: a line at its first
line feed, the body at the first line that is a fence, the gap at the first character that ends no line.
So no text has two such forms, and stripping leaves exactly the last part. A text in which the reader
finds a block has a form of this kind, so a text without one is left as it is.
-/

namespace Folio.Frontmatter

/-- Lines of a body: none of them has a line feed inside or is a fence. -/
def Unfenced (lines : List (List Char)) : Prop :=
  ∀ line ∈ lines, '\n' ∉ line ∧ Text.trimEnd line ≠ fence

/-- The parts of a text that opens with a block of metadata. The lines of the body are given without the
line feeds that end them; the closing fence is ended by a line feed, or by the end of the text. -/
@[ext]
structure Fenced where
  ending : List Char
  body : List (List Char)
  closing : List Char
  terminator : List Char
  gap : List Char
  rest : List Char
  ending_eq : ending = ['\n'] ∨ ending = ['\r', '\n']
  body_open : Unfenced body
  closing_line : '\n' ∉ closing
  closing_fence : Text.trimEnd closing = fence
  terminated : terminator = ['\n'] ∨ terminator = [] ∧ gap = [] ∧ rest = []
  gap_ends : ∀ c ∈ gap, isLineEnd c = true
  rest_starts : ∀ c, rest.head? = some c → isLineEnd c = false

/-- Lines, each ended by a line feed. -/
def unlines (lines : List (List Char)) : List Char :=
  lines.flatMap (· ++ ['\n'])

/-- The metadata and its fences, with the line ends that follow. -/
def Fenced.block (parts : Fenced) : List Char :=
  fence ++ parts.ending ++ unlines parts.body ++ parts.closing ++ parts.terminator ++ parts.gap

def Fenced.text (parts : Fenced) : List Char :=
  parts.block ++ parts.rest

theorem unlines_cons_append (line : List Char) (lines : List (List Char)) (behind : List Char) :
    unlines (line :: lines) ++ behind = line ++ '\n' :: (unlines lines ++ behind) := by
  simp [unlines]

/-! ### Lines -/

/-- A line that nothing or a line feed follows. -/
structure Ended (line rest : List Char) : Prop where
  inside : '\n' ∉ line
  boundary : rest = [] ∨ ∃ more, rest = '\n' :: more

variable {line rest text : List Char}

theorem Ended.feed (hline : '\n' ∉ line) (more : List Char) : Ended line ('\n' :: more) :=
  ⟨hline, .inr ⟨more, rfl⟩⟩

theorem Ended.takes (h : Ended line rest) : ∀ c ∈ line, (c != '\n') = true := by
  intro c hc
  have hne : c ≠ '\n' := by
    rintro rfl
    exact h.inside hc
  simpa using hne

theorem Ended.firstLine_eq (h : Ended line rest) : firstLine (line ++ rest) = line := by
  rw [firstLine, List.takeWhile_append_of_pos h.takes]
  obtain rfl | ⟨more, rfl⟩ := h.boundary
  · exact List.append_nil line
  · exact List.append_nil line

theorem Ended.afterLine_eq (h : Ended line rest) : afterLine (line ++ rest) = rest.drop 1 := by
  rw [afterLine, List.dropWhile_append_of_pos h.takes]
  obtain rfl | ⟨more, rfl⟩ := h.boundary
  · rfl
  · rfl

/-- Every text is a first line and what follows it. -/
theorem exists_ended (text : List Char) : ∃ line tail, text = line ++ tail ∧ Ended line tail := by
  refine ⟨text.takeWhile (· != '\n'), text.dropWhile (· != '\n'),
    List.takeWhile_append_dropWhile.symm, ?_, ?_⟩
  · intro hmem
    have hall : (text.takeWhile (· != '\n')).all (· != '\n') = true := List.all_takeWhile
    have hfeed := List.all_eq_true.mp hall '\n' hmem
    simp at hfeed
  · rcases htail : text.dropWhile (· != '\n') with _ | ⟨c, more⟩
    · exact .inl rfl
    · have hstop := List.head?_dropWhile_not (· != '\n') text
      rw [htail] at hstop
      obtain rfl : c = '\n' := by simpa using hstop
      exact .inr ⟨more, rfl⟩

/-! ### The closing fence -/

/-- A closing fence and what follows it. -/
structure Closes (closing tail : List Char) : Prop extends Ended closing tail where
  is_fence : Text.trimEnd closing = fence

theorem afterClosing?_eq (hline : Ended line rest) (hne : line ++ rest ≠ []) :
    afterClosing? (line ++ rest) =
      if Text.trimEnd line = fence then some (rest.drop 1) else afterClosing? (rest.drop 1) := by
  obtain ⟨c, tail, htext⟩ := List.exists_cons_of_ne_nil hne
  rw [htext, afterClosing?, ← htext, hline.firstLine_eq, hline.afterLine_eq]

theorem Closes.ne_nil {closing tail : List Char} (h : Closes closing tail) : closing ≠ [] := by
  rintro rfl
  cases h.is_fence

/-- Past lines that are no fence, the text behind the closing fence is found. -/
theorem afterClosing?_unlines {body : List (List Char)} {closing tail : List Char}
    (hbody : Unfenced body) (hclosing : Closes closing tail) :
    afterClosing? (unlines body ++ (closing ++ tail)) = some (tail.drop 1) := by
  induction body with
  | nil =>
    have hne : closing ++ tail ≠ [] := by simp [hclosing.ne_nil]
    rw [unlines, List.flatMap_nil, List.nil_append, afterClosing?_eq hclosing.toEnded hne,
      if_pos hclosing.is_fence]
  | cons line body ih =>
    obtain ⟨⟨hline, hopen⟩, hbody⟩ := List.forall_mem_cons.mp hbody
    rw [unlines_cons_append, afterClosing?_eq (Ended.feed hline _) (by simp), if_neg hopen]
    exact ih hbody

/-- Where a closing fence is found, the text is lines that are no fence, the closing fence and the rest. -/
theorem exists_of_afterClosing? (hfound : afterClosing? text = some rest) :
    ∃ body closing tail, text = unlines body ++ (closing ++ tail) ∧
      Unfenced body ∧ Closes closing tail ∧ rest = tail.drop 1 := by
  -- The first line is the closing fence, or it is one more line of the body that follows.
  induction text using afterClosing?.induct with
  | case1 =>
    rw [afterClosing?] at hfound
    cases hfound
  | case2 c more hfence =>
    obtain ⟨line, tail, htext, hline⟩ := exists_ended (c :: more)
    rw [htext, hline.firstLine_eq] at hfence
    rw [htext, afterClosing?_eq hline (by simp [← htext]), if_pos hfence] at hfound
    exact ⟨[], line, tail, htext, by simp [Unfenced], ⟨hline, hfence⟩, (Option.some.inj hfound).symm⟩
  | case3 c more hfence ih =>
    obtain ⟨line, tail, htext, hline⟩ := exists_ended (c :: more)
    rw [htext, hline.firstLine_eq] at hfence
    rw [htext, afterClosing?_eq hline (by simp [← htext]), if_neg hfence] at hfound
    rw [htext, hline.afterLine_eq] at ih
    obtain ⟨body, closing, behind, hafter, hbody, hclosing, hrest⟩ := ih hfound
    obtain rfl | ⟨following, rfl⟩ := hline.boundary
    · rw [List.drop_nil, afterClosing?] at hfound
      cases hfound
    · refine ⟨line :: body, closing, behind, ?_, ?_, hclosing, hrest⟩
      · rw [htext, unlines_cons_append, ← hafter]
        rfl
      · exact List.forall_mem_cons.mpr ⟨⟨hline.inside, hfence⟩, hbody⟩

/-- A text that starts with a closing fence does not start with a line of the body. -/
theorem fence_ne_unlines {closing tail behind : List Char} {lines : List (List Char)}
    (hclosing : Closes closing tail) (hline : '\n' ∉ line) (hopen : Text.trimEnd line ≠ fence) :
    closing ++ tail ≠ unlines (line :: lines) ++ behind := by
  intro heq
  have hfirst := congrArg firstLine heq
  rw [unlines_cons_append, hclosing.firstLine_eq, (Ended.feed hline _).firstLine_eq] at hfirst
  exact hopen (hfirst ▸ hclosing.is_fence)

/-- The lines up to the closing fence are determined by the text. -/
theorem unlines_unique {body other : List (List Char)} {closing closing' tail tail' : List Char}
    (hbody : Unfenced body) (hother : Unfenced other) (hclosing : Closes closing tail)
    (hclosing' : Closes closing' tail')
    (heq : unlines body ++ (closing ++ tail) = unlines other ++ (closing' ++ tail')) :
    body = other ∧ closing = closing' ∧ tail = tail' := by
  induction body generalizing other with
  | nil =>
    cases other with
    | nil =>
      have htext : closing ++ tail = closing' ++ tail' := heq
      have hfirst := congrArg firstLine htext
      rw [hclosing.firstLine_eq, hclosing'.firstLine_eq] at hfirst
      subst hfirst
      exact ⟨rfl, rfl, List.append_cancel_left htext⟩
    | cons line lines =>
      obtain ⟨⟨hline, hopen⟩, -⟩ := List.forall_mem_cons.mp hother
      have htext : closing ++ tail = unlines (line :: lines) ++ (closing' ++ tail') := heq
      exact absurd htext (fence_ne_unlines hclosing hline hopen)
  | cons line lines ih =>
    obtain ⟨⟨hline, hopen⟩, hlines⟩ := List.forall_mem_cons.mp hbody
    cases other with
    | nil =>
      have htext : closing' ++ tail' = unlines (line :: lines) ++ (closing ++ tail) := heq.symm
      exact absurd htext (fence_ne_unlines hclosing' hline hopen)
    | cons line' lines' =>
      obtain ⟨⟨hline', -⟩, hlines'⟩ := List.forall_mem_cons.mp hother
      rw [unlines_cons_append, unlines_cons_append] at heq
      have hfirst := congrArg firstLine heq
      have hafter := congrArg afterLine heq
      rw [(Ended.feed hline _).firstLine_eq, (Ended.feed hline' _).firstLine_eq] at hfirst
      rw [(Ended.feed hline _).afterLine_eq, (Ended.feed hline' _).afterLine_eq] at hafter
      obtain ⟨rfl, hrest⟩ := ih hlines hlines' hafter
      exact ⟨by rw [hfirst], hrest⟩

/-! ### The opening fence and the gap -/

theorem afterOpening?_eq_some_iff :
    afterOpening? text = some rest ↔
      ∃ ending, (ending = ['\n'] ∨ ending = ['\r', '\n']) ∧ text = fence ++ (ending ++ rest) := by
  constructor
  · intro hopening
    unfold afterOpening? at hopening
    split at hopening
    · obtain rfl := Option.some.inj hopening
      exact ⟨_, .inl rfl, rfl⟩
    · obtain rfl := Option.some.inj hopening
      exact ⟨_, .inr rfl, rfl⟩
    · cases hopening
  · rintro ⟨ending, rfl | rfl, rfl⟩
    · rfl
    · rfl

theorem opening_unique {ending ending' behind behind' : List Char}
    (hending : ending = ['\n'] ∨ ending = ['\r', '\n'])
    (hending' : ending' = ['\n'] ∨ ending' = ['\r', '\n'])
    (heq : fence ++ (ending ++ behind) = fence ++ (ending' ++ behind')) :
    ending = ending' ∧ behind = behind' := by
  have hrest : ending ++ behind = ending' ++ behind' := List.append_cancel_left heq
  obtain rfl | rfl := hending <;> obtain rfl | rfl := hending' <;> simp_all

/-- After line ends, the first character that ends no line is where the rest starts. -/
theorem span_gap {gap rest : List Char} (hgap : ∀ c ∈ gap, isLineEnd c = true)
    (hrest : ∀ c, rest.head? = some c → isLineEnd c = false) :
    (gap ++ rest).takeWhile isLineEnd = gap ∧ (gap ++ rest).dropWhile isLineEnd = rest := by
  rw [List.takeWhile_append_of_pos hgap, List.dropWhile_append_of_pos hgap]
  cases rest with
  | nil => exact ⟨List.append_nil gap, rfl⟩
  | cons c more =>
    have hstop : isLineEnd c = false := hrest c rfl
    simp [hstop]

/-! ### Texts with metadata -/

namespace Fenced

variable (parts : Fenced)

theorem text_eq : parts.text = fence ++ (parts.ending ++ (unlines parts.body ++
    (parts.closing ++ (parts.terminator ++ (parts.gap ++ parts.rest))))) := by
  simp only [text, block, List.append_assoc]

theorem closes : Closes parts.closing (parts.terminator ++ (parts.gap ++ parts.rest)) := by
  refine ⟨⟨parts.closing_line, ?_⟩, parts.closing_fence⟩
  obtain hfeed | ⟨hend, hgap, hrest⟩ := parts.terminated
  · exact .inr ⟨parts.gap ++ parts.rest, by rw [hfeed]; rfl⟩
  · exact .inl (by rw [hend, hgap, hrest]; rfl)

theorem drop_terminator :
    (parts.terminator ++ (parts.gap ++ parts.rest)).drop 1 = parts.gap ++ parts.rest := by
  obtain hfeed | ⟨hend, hgap, hrest⟩ := parts.terminated
  · rw [hfeed]
    rfl
  · rw [hend, hgap, hrest]
    rfl

theorem afterClosing?_afterOpening? :
    (afterOpening? parts.text).bind afterClosing? = some (parts.gap ++ parts.rest) := by
  rw [text_eq, afterOpening?_eq_some_iff.mpr ⟨_, parts.ending_eq, rfl⟩, Option.bind_some,
    afterClosing?_unlines parts.body_open parts.closes, drop_terminator]

theorem strip_text : strip parts.text = parts.rest := by
  rw [strip, afterClosing?_afterOpening?]
  exact (span_gap parts.gap_ends parts.rest_starts).2

theorem eq_of_text_eq {parts other : Fenced} (heq : parts.text = other.text) : parts = other := by
  rw [text_eq, text_eq] at heq
  obtain ⟨hending, hbehind⟩ := opening_unique parts.ending_eq other.ending_eq heq
  obtain ⟨hbody, hclosing, htail⟩ := unlines_unique parts.body_open other.body_open
    parts.closes other.closes hbehind
  have hafter := congrArg (List.drop 1) htail
  rw [drop_terminator, drop_terminator] at hafter
  have hterminator : parts.terminator = other.terminator := by
    rw [hafter] at htail
    exact List.append_cancel_right htail
  obtain ⟨hgap, hrest⟩ := span_gap parts.gap_ends parts.rest_starts
  obtain ⟨hgap', hrest'⟩ := span_gap other.gap_ends other.rest_starts
  rw [hafter] at hgap hrest
  exact Fenced.ext hending hbody hclosing hterminator (hgap.symm.trans hgap') (hrest.symm.trans hrest')

end Fenced

/-- Where the reader finds a block, the text has the parts of one. -/
theorem exists_fenced (hfound : (afterOpening? text).bind afterClosing? = some rest) :
    ∃ parts : Fenced, parts.text = text := by
  obtain ⟨behind, hopening, hclosing⟩ := Option.bind_eq_some_iff.mp hfound
  obtain ⟨ending, hending, rfl⟩ := afterOpening?_eq_some_iff.mp hopening
  obtain ⟨body, closing, tail, rfl, hbody, hcloses, -⟩ := exists_of_afterClosing? hclosing
  have hgap : ∀ c ∈ (tail.drop 1).takeWhile isLineEnd, isLineEnd c = true := by
    have hall : ((tail.drop 1).takeWhile isLineEnd).all isLineEnd = true := List.all_takeWhile
    exact List.all_eq_true.mp hall
  have hrest : ∀ c, ((tail.drop 1).dropWhile isLineEnd).head? = some c → isLineEnd c = false := by
    intro c hc
    have hstop := List.head?_dropWhile_not isLineEnd (tail.drop 1)
    rw [hc] at hstop
    simpa using hstop
  have hterminated : tail.take 1 = ['\n'] ∨ tail.take 1 = [] ∧
      (tail.drop 1).takeWhile isLineEnd = [] ∧ (tail.drop 1).dropWhile isLineEnd = [] := by
    obtain rfl | ⟨more, rfl⟩ := hcloses.boundary
    · exact .inr ⟨rfl, rfl, rfl⟩
    · exact .inl rfl
  let parts : Fenced := ⟨ending, body, closing, tail.take 1, (tail.drop 1).takeWhile isLineEnd,
    (tail.drop 1).dropWhile isLineEnd, hending, hbody, hcloses.inside, hcloses.is_fence, hterminated, hgap, hrest⟩
  refine ⟨parts, ?_⟩
  rw [parts.text_eq]
  simp only [parts, List.takeWhile_append_dropWhile, List.take_append_drop]

/-- **Stripping removes exactly a leading block of metadata.** If a text has the parts of one, it has them
in one way only and stripping leaves the last of them; if it has not, stripping leaves the text alone. What
is left is always an end of the text, from a boundary on. -/
theorem strip_removes_block (text : List Char) :
    (∀ parts : Fenced, parts.text = text →
      strip text = parts.rest ∧ ∀ other : Fenced, other.text = text → other = parts) ∧
    ((¬ ∃ parts : Fenced, parts.text = text) → strip text = text) ∧
    ∃ before, text = before ++ strip text ∧ Text.IsBoundary text (Text.byteLength before) := by
  have hfenced : ∀ parts : Fenced, parts.text = text → strip text = parts.rest := by
    rintro parts rfl
    exact parts.strip_text
  have hplain : (¬ ∃ parts : Fenced, parts.text = text) → strip text = text := by
    intro hnone
    rcases hfound : (afterOpening? text).bind afterClosing? with _ | rest
    · rw [strip, hfound]
    · exact absurd (exists_fenced hfound) hnone
  refine ⟨fun parts hparts => ⟨hfenced parts hparts, fun other hother => ?_⟩, hplain, ?_⟩
  · exact Fenced.eq_of_text_eq (hother.trans hparts.symm)
  · by_cases hparts : ∃ parts : Fenced, parts.text = text
    · obtain ⟨parts, hparts⟩ := hparts
      have hsplit : text = parts.block ++ strip text := by
        rw [hfenced parts hparts, ← hparts]
        rfl
      exact ⟨parts.block, hsplit, parts.block, strip text, hsplit, rfl⟩
    · exact ⟨[], by rw [hplain hparts, List.nil_append], [], text, rfl, rfl⟩

/-- A block with both kinds of line end, blanks behind its closing fence and an empty line after it. -/
theorem strip_removes_block_mixedEnds :
    let text := "---\r\na: ---\n--- \r\n\r\nbody\n---\n".toList
    ∃ parts : Fenced, parts.text = text ∧ strip text = parts.rest ∧
      parts.rest = "body\n---\n".toList ∧ (∀ other : Fenced, other.text = text → other = parts) := by
  intro text
  have hbody : Unfenced ["a: ---".toList] := List.forall_mem_singleton.mpr ⟨by decide, by decide⟩
  let parts : Fenced := ⟨['\r', '\n'], ["a: ---".toList], "--- \r".toList, ['\n'], ['\r', '\n'],
    "body\n---\n".toList, .inr rfl, hbody, by decide, by decide, .inl rfl, by simp [isLineEnd],
    by simp [isLineEnd]⟩
  have hparts : parts.text = text := rfl
  obtain ⟨hstrip, hunique⟩ := (strip_removes_block text).1 parts hparts
  exact ⟨parts, hparts, hstrip, rfl, hunique⟩

end Folio.Frontmatter

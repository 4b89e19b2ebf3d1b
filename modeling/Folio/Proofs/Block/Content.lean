import Folio.Block.Folding
/-!
# Content, all at once

The machine collects content event by event: a text goes into the text before it, and a piece is
joined to a container by a line break. Here both are given for whole lists. `mergeTexts` puts
neighbouring texts together and `joinPieces` puts a line break between the pieces that are not empty;
the lemmas say that the machine's steps compute them, one element or one piece at a time.
-/

namespace Folio.Folding

/-- Puts neighbouring texts together. -/
def mergeTexts : List Inline → List Inline
  | [] => []
  | .text first :: rest =>
    match mergeTexts rest with
    | .text second :: more => .text (first ++ second) :: more
    | merged => .text first :: merged
  | token :: rest => token :: mergeTexts rest

/-- The pieces that are not empty, with a line break between each two. -/
def joinPieces (pieces : List (List Inline)) : List Inline :=
  [Inline.lineBreak].intercalate (pieces.filter fun piece => !piece.isEmpty)

/-- The first token stays as it is, or it is a text and takes in the one after it. -/
theorem mergeTexts_cons (token : Inline) (rest : List Inline) :
    mergeTexts (token :: rest) = token :: mergeTexts rest ∨
      ∃ first second more, token = .text first ∧ mergeTexts rest = .text second :: more ∧
        mergeTexts (token :: rest) = .text (first ++ second) :: more := by
  cases token with
  | text first =>
    rw [mergeTexts]
    split
    · exact .inr ⟨first, _, _, rfl, ‹_›, rfl⟩
    · exact .inl rfl
  | _ => exact .inl (by rw [mergeTexts]; simp)

/-- A token that is not a text stays as it is, and so does what was merged before it. -/
theorem mergeTexts_append_token (tokens : List Inline) {token : Inline}
    (htoken : ∀ text, token ≠ .text text) : mergeTexts (tokens ++ [token]) = mergeTexts tokens ++ [token] := by
  induction tokens with
  | nil =>
    cases token with
    | text literal => exact absurd rfl (htoken literal)
    | _ => rfl
  | cons head rest ih =>
    cases head with
    | text first =>
      rw [List.cons_append, mergeTexts, mergeTexts, ih]
      rcases hmerged : mergeTexts rest with _ | ⟨second, more⟩
      · cases token with
        | text literal => exact absurd rfl (htoken literal)
        | _ => rfl
      · cases second <;> rfl
    | _ => rw [List.cons_append, mergeTexts, mergeTexts, ih, List.cons_append] <;> simp

/-- Adding a text after merging is merging with the text at the end. -/
theorem mergeTexts_append_text (tokens : List Inline) (text : String) :
    mergeTexts (tokens ++ [.text text]) = pushText (mergeTexts tokens) text := by
  induction tokens with
  | nil => rfl
  | cons head rest ih =>
    cases head with
    | text first =>
      rw [List.cons_append, mergeTexts, mergeTexts, ih]
      rcases mergeTexts rest with _ | ⟨second, _ | ⟨third, more⟩⟩
      · rfl
      · cases second <;> simp [pushText, String.append_assoc]
      · cases second <;> simp [pushText]
    | _ =>
      rw [List.cons_append, mergeTexts, mergeTexts, ih]
      · rcases mergeTexts rest with _ | ⟨second, more⟩ <;> rfl
      all_goals simp

@[simp] theorem joinWithBreak_nil_left (content : List Inline) : joinWithBreak [] content = content := by
  cases content <;> rfl

@[simp] theorem joinWithBreak_nil_right (target : List Inline) : joinWithBreak target [] = target := by
  cases target <;> rfl

theorem joinWithBreak_of_ne_nil {target content : List Inline} (htarget : target ≠ [])
    (hcontent : content ≠ []) :
    joinWithBreak target content = target ++ .lineBreak :: content := by
  cases target with
  | nil => exact absurd rfl htarget
  | cons _ _ =>
    cases content with
    | nil => exact absurd rfl hcontent
    | cons _ _ => rfl

theorem joinWithBreak_assoc (first second third : List Inline) :
    joinWithBreak (joinWithBreak first second) third =
      joinWithBreak first (joinWithBreak second third) := by
  rcases first with _ | ⟨a, first⟩
  · simp
  rcases second with _ | ⟨b, second⟩
  · simp
  rcases third with _ | ⟨c, third⟩
  · simp
  simp [joinWithBreak]

@[simp] theorem joinPieces_nil : joinPieces [] = [] := rfl

/-- The first piece is joined to the others as the machine joins two. -/
theorem joinPieces_cons (piece : List Inline) (rest : List (List Inline)) :
    joinPieces (piece :: rest) = joinWithBreak piece (joinPieces rest) := by
  rcases piece with _ | ⟨token, piece⟩
  · simp [joinPieces]
  rcases hrest : rest.filter fun piece => !piece.isEmpty with _ | ⟨next, others⟩
  · simp [joinPieces, hrest]
  have hnext : next ≠ [] := by
    have hmem : next ∈ rest.filter fun piece => !piece.isEmpty := by
      rw [hrest]
      exact List.mem_cons_self
    simpa using (List.mem_filter.mp hmem).2
  have hjoined : joinPieces rest ≠ [] := by
    rw [joinPieces, hrest]
    cases others <;> simp [List.intercalate, hnext]
  rw [joinWithBreak_of_ne_nil (by simp) hjoined, joinPieces, joinPieces,
    List.filter_cons_of_pos (by simp), hrest]
  simp [List.intercalate]

theorem joinPieces_append (first second : List (List Inline)) :
    joinPieces (first ++ second) = joinWithBreak (joinPieces first) (joinPieces second) := by
  induction first with
  | nil => rw [List.nil_append, joinPieces_nil, joinWithBreak_nil_left]
  | cons piece rest ih => rw [List.cons_append, joinPieces_cons, joinPieces_cons, ih, joinWithBreak_assoc]

end Folio.Folding

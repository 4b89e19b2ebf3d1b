import Folio.Proofs.Inline.Words
/-!
# Where tokens show a text

That a text is somewhere among the words of some tokens says little, since the same words may stand there
twice. So a text is looked for at a place: after so many words. Only newlines do not count, as in the
words themselves, and a text that ends with one may be shown without it, which happens at the end of a code
block.

Moving, wrapping and merging tokens keeps every text in one token and at its place.
-/

namespace Folio

/-- Characters hold a text after the words at `place`, all of it or all but a newline at its end. -/
def Holds (text : String) (place chars : List Char) : Prop :=
  ∃ before shown after, chars = before ++ (shown ++ after) ∧ place = withoutNewlines before ∧
    (shown = text.toList ∨ shown ++ ['\n'] = text.toList)

namespace Holds

variable {text : String} {place chars : List Char}

theorem self (text : String) : Holds text [] text.toList :=
  ⟨[], text.toList, [], (List.append_nil _).symm, rfl, .inl rfl⟩

theorem append_left (h : Holds text place chars) (more : List Char) : Holds text place (chars ++ more) := by
  obtain ⟨before, shown, after, rfl, hplace, hshown⟩ := h
  exact ⟨before, shown, after ++ more, by simp only [List.append_assoc], hplace, hshown⟩

theorem append_right (h : Holds text place chars) (earlier : List Char) :
    Holds text (withoutNewlines earlier ++ place) (earlier ++ chars) := by
  obtain ⟨before, shown, after, rfl, rfl, hshown⟩ := h
  refine ⟨earlier ++ before, shown, after, ?_, ?_, hshown⟩
  · rw [List.append_assoc]
  · rw [withoutNewlines_append]

/-- A newline that is taken from the end moves no text, and takes at most a newline from it. -/
theorem of_concat_newline {before after : List Char}
    (hchars : before ++ (text.toList ++ after) = chars ++ ['\n']) :
    Holds text (withoutNewlines before) chars := by
  rcases List.eq_nil_or_concat after with rfl | ⟨after, last, rfl⟩
  · rw [List.append_nil] at hchars
    rcases List.eq_nil_or_concat text.toList with htext | ⟨shown, last, htext⟩
    · rw [htext, List.append_nil] at hchars
      refine ⟨chars, [], [], (List.append_nil _).symm, ?_, .inl htext.symm⟩
      rw [hchars, withoutNewlines_append]
      exact List.append_nil _
    · rw [htext, List.concat_eq_append, ← List.append_assoc] at hchars
      obtain ⟨rfl, hlast⟩ := List.append_inj' hchars rfl
      refine ⟨before, shown, [], by rw [List.append_nil], rfl, .inr ?_⟩
      rw [htext, List.concat_eq_append, hlast]
  · rw [List.concat_eq_append, ← List.append_assoc, ← List.append_assoc] at hchars
    obtain ⟨rfl, -⟩ := List.append_inj' hchars rfl
    exact ⟨before, text.toList, after, List.append_assoc .., rfl, .inl rfl⟩

end Holds

/-- One of the tokens holds a text, and the words of the tokens before it count for the place. -/
inductive Shows (text : String) : List Char → List Inline → Prop
  | head {place : List Char} {token : Inline} {rest : List Inline}
      (hholds : Holds text place token.plainText.toList) : Shows text place (token :: rest)
  | tail {place : List Char} {token : Inline} {rest : List Inline} (hrest : Shows text place rest) :
      Shows text (withoutNewlines token.plainText.toList ++ place) (token :: rest)

namespace Shows

open Inline Folding

variable {text : String} {place : List Char} {tokens : List Inline}

theorem ne_nil (h : Shows text place tokens) : tokens ≠ [] := by
  cases h <;> exact List.cons_ne_nil _ _

theorem append_left (h : Shows text place tokens) (more : List Inline) :
    Shows text place (tokens ++ more) := by
  induction h with
  | head hholds => exact .head hholds
  | tail _ ih => exact .tail ih

theorem append_right (h : Shows text place tokens) (earlier : List Inline) :
    Shows text (words earlier ++ place) (earlier ++ tokens) := by
  induction earlier with
  | nil => exact h
  | cons token rest ih =>
    rw [words_cons, List.append_assoc]
    exact .tail ih

/-- What tokens show is in their plain text, and so in a token that is made of them. -/
theorem holds (h : Shows text place tokens) : Holds text place (plainTextAll tokens).toList := by
  induction h with
  | head hholds =>
    rw [plainTextAll, String.toList_append]
    exact hholds.append_left _
  | tail _ ih =>
    rw [plainTextAll, String.toList_append]
    exact ih.append_right _

theorem of_plainText (h : Shows text place tokens) {token : Inline}
    (htoken : token.plainText = plainTextAll tokens) :
    Shows text place [token] :=
  .head (htoken ▸ h.holds)

/-- A text that goes into the text before it is still shown after the same words. -/
theorem mergeTexts (h : Shows text place tokens) : Shows text place (mergeTexts tokens) := by
  have hplain (literal : String) : (Inline.text literal).plainText = literal := rfl
  induction h with
  | @head place token rest hholds =>
    rcases mergeTexts_cons token rest with hkept | ⟨first, second, more, rfl, -, hmerged⟩
    · rw [hkept]
      exact .head hholds
    · rw [hplain] at hholds
      rw [hmerged]
      apply Shows.head
      rw [hplain, String.toList_append]
      exact hholds.append_left _
  | @tail place token rest _ ih =>
    rcases mergeTexts_cons token rest with hkept | ⟨first, second, more, rfl, hrest, hmerged⟩
    · rw [hkept]
      exact .tail ih
    · rw [hrest] at ih
      rw [hmerged, hplain]
      cases ih with
      | head hholds =>
        rw [hplain] at hholds
        apply Shows.head
        rw [hplain, String.toList_append]
        exact hholds.append_right _
      | tail hmore =>
        have htail := @Shows.tail text _ (.text (first ++ second)) _ hmore
        rw [hplain, String.toList_append, withoutNewlines_append, List.append_assoc] at htail
        exact htail

end Shows

end Folio

import Mathlib.Data.List.Infix
/-!
# Forms that can be read back

A form is readable when its texts show where they end and what they say, whatever stands behind them.
What they say is the view: the part of the written value that the text determines. Readable forms are put
together by reading one piece after the other off the front of two equal texts. Where a piece may be
missing or may repeat, it begins with a keyword that cannot begin what stands behind it.
-/

namespace Folio.Text

variable {α β : Type}

/-- Equal texts, whatever follows, come from values with equal views, and the same follows. -/
def Readable (write : α → List Char) (view : α → β) : Prop :=
  ∀ ⦃a b : α⦄ ⦃r s : List Char⦄, write a ++ r = write b ++ s → view a = view b ∧ r = s

/-- Neither text begins with the other. -/
def Apart (v w : List Char) : Prop :=
  ¬ v <+: w ∧ ¬ w <+: v

instance (v w : List Char) : Decidable (Apart v w) :=
  inferInstanceAs (Decidable (¬ v <+: w ∧ ¬ w <+: v))

theorem Apart.not_prefix_append {v w : List Char} (hapart : Apart v w) (text : List Char) :
    ¬ v <+: w ++ text := by
  intro hv
  obtain hvw | hwv := List.prefix_or_prefix_of_prefix hv (List.prefix_append w text)
  · exact hapart.1 hvw
  · exact hapart.2 hwv

theorem Apart.append_ne {v w : List Char} (hapart : Apart v w) (r s : List Char) :
    v ++ r ≠ w ++ s := by
  intro h
  exact hapart.not_prefix_append s (h ▸ List.prefix_append v r)

/-- The text begins with one of the words. -/
def StartsIn (words : List (List Char)) (text : List Char) : Prop :=
  ∃ w ∈ words, w <+: text

theorem StartsIn.append {words : List (List Char)} {text : List Char} (hstart : StartsIn words text)
    (rest : List Char) : StartsIn words (text ++ rest) := by
  obtain ⟨w, hw, hbegins⟩ := hstart
  exact ⟨w, hw, hbegins.trans (List.prefix_append text rest)⟩

theorem StartsIn.not_prefix_of_apart {words : List (List Char)} {text v : List Char}
    (hstart : StartsIn words text) (hapart : ∀ w ∈ words, Apart v w) : ¬ v <+: text := by
  obtain ⟨w, hw, t, rfl⟩ := hstart
  exact (hapart w hw).not_prefix_append t

/-- One of several words, none of which begins with another, is recognised by its letters. -/
theorem word_read {ι : Type} {word : ι → List Char} {i j : ι}
    (hapart : i ≠ j → Apart (word i) (word j)) {r s : List Char} (h : word i ++ r = word j ++ s) :
    i = j ∧ r = s := by
  by_cases hne : i = j
  · subst hne
    exact ⟨rfl, List.append_cancel_left h⟩
  · exact absurd h ((hapart hne).append_ne r s)

/-- A stretch of characters of one kind ends where a character of another kind stands. -/
theorem stretch_read {kind : Char → Bool} {v w r s : List Char} {c d : Char}
    (hv : ∀ x ∈ v, kind x = true) (hw : ∀ x ∈ w, kind x = true) (hc : kind c = false)
    (hd : kind d = false) (h : v ++ c :: r = w ++ d :: s) : v = w ∧ c :: r = d :: s := by
  induction v generalizing w with
  | nil =>
    cases w with
    | nil => exact ⟨rfl, h⟩
    | cons y w =>
      obtain ⟨rfl, -⟩ := List.cons.inj h
      rw [hw c List.mem_cons_self] at hc
      cases hc
  | cons x v ih =>
    obtain ⟨hx, hv⟩ := List.forall_mem_cons.mp hv
    cases w with
    | nil =>
      obtain ⟨rfl, -⟩ := List.cons.inj h
      rw [hx] at hd
      cases hd
    | cons y w =>
      obtain ⟨hxy, htail⟩ := List.cons.inj h
      obtain ⟨hvw, hrest⟩ := ih hv (List.forall_mem_cons.mp hw).2 htail
      exact ⟨List.cons_eq_cons.mpr ⟨hxy, hvw⟩, hrest⟩

/-- Repeated texts are counted by the keyword that each begins with and that what follows does not begin
with. -/
theorem many_read {write : α → List Char} {view : α → β} (hwrite : Readable write view)
    {keyword : List Char} (hkeyword : ∀ a, keyword <+: write a) {r s : List Char}
    (hr : ¬ keyword <+: r) (hs : ¬ keyword <+: s) {xs ys : List α}
    (h : xs.flatMap write ++ r = ys.flatMap write ++ s) : xs.map view = ys.map view ∧ r = s := by
  have hbegins (a : α) (t : List Char) : keyword <+: write a ++ t :=
    (hkeyword a).trans (List.prefix_append _ t)
  -- At each step the keyword tells whether the list goes on, and so it goes on in both or in none.
  induction xs generalizing ys with
  | nil =>
    cases ys with
    | nil => exact ⟨rfl, h⟩
    | cons y ys =>
      rw [List.flatMap_nil, List.nil_append, List.flatMap_cons, List.append_assoc] at h
      exact absurd (h ▸ hbegins y _) hr
  | cons x xs ih =>
    cases ys with
    | nil =>
      rw [List.flatMap_nil, List.nil_append, List.flatMap_cons, List.append_assoc] at h
      exact absurd (h ▸ hbegins x _) hs
    | cons y ys =>
      rw [List.flatMap_cons, List.flatMap_cons, List.append_assoc, List.append_assoc] at h
      obtain ⟨hview, h⟩ := hwrite h
      obtain ⟨hviews, h⟩ := ih h
      rw [List.map_cons, List.map_cons, hview, hviews]
      exact ⟨rfl, h⟩

/-- What may be missing is there or not by the same rule. -/
theorem optional_read {write : α → List Char} {view : α → β} (hwrite : Readable write view)
    {keyword : List Char} (hkeyword : ∀ a, keyword <+: write a) {r s : List Char}
    (hr : ¬ keyword <+: r) (hs : ¬ keyword <+: s) {x y : Option α}
    (h : x.elim [] write ++ r = y.elim [] write ++ s) : x.map view = y.map view ∧ r = s := by
  have hlist (o : Option α) : o.elim [] write = o.toList.flatMap write := by
    cases o with
    | none => rfl
    | some a => exact (List.flatMap_singleton write a).symm
  rw [hlist, hlist] at h
  obtain ⟨hviews, h⟩ := many_read hwrite hkeyword hr hs h
  rw [← Option.toList_map, ← Option.toList_map] at hviews
  refine ⟨?_, h⟩
  cases hx : x.map view with
  | none =>
    rw [hx, Option.toList_none] at hviews
    exact (Option.toList_eq_nil_iff.mp hviews.symm).symm
  | some a =>
    rw [hx, Option.toList_some] at hviews
    exact (Option.toList_eq_singleton_iff.mp hviews.symm).symm

end Folio.Text

import Folio.Text.Blank
import Folio.Text.Bytes
import Mathlib.Tactic.SplitIfs
/-!
# Character boundaries

An offset is a boundary of a text if a character begins there or the text ends there. Between two
boundaries in order a slice exists, and where a text is trimmed at its end a boundary remains. Nothing
else is needed to see that a program which cuts only at boundaries never fails to cut.
-/

namespace Folio.Text

variable {text : List Char}

/-- An offset, in bytes, at which the text divides. -/
def IsBoundary (text : List Char) (n : Nat) : Prop :=
  ∃ before after, text = before ++ after ∧ byteLength before = n

theorem dropBytes?_eq_some {n : Nat} {rest : List Char} (h : dropBytes? n text = some rest) :
    ∃ before, text = before ++ rest ∧ byteLength before = n := by
  fun_induction dropBytes? n text with
  | case1 text => exact ⟨[], by simpa using h, rfl⟩
  | case2 n => simp at h
  | case3 n c text hle ih =>
    obtain ⟨before, rfl, hlength⟩ := ih h
    refine ⟨c :: before, rfl, ?_⟩
    simp only [byteLength] at hlength ⊢
    omega
  | case4 n c text hle => simp at h

theorem isBoundary_iff_dropBytes? {n : Nat} : IsBoundary text n ↔ (dropBytes? n text).isSome := by
  constructor
  · rintro ⟨before, after, rfl, rfl⟩
    rw [dropBytes?_append]
    rfl
  · intro h
    obtain ⟨rest, hrest⟩ := Option.isSome_iff_exists.mp h
    obtain ⟨before, hsplit, hlength⟩ := dropBytes?_eq_some hrest
    exact ⟨before, rest, hsplit, hlength⟩

instance {n : Nat} : Decidable (IsBoundary text n) :=
  decidable_of_iff _ isBoundary_iff_dropBytes?.symm

theorem IsBoundary.byteLength_of_prefix {before : List Char} (hbegins : before <+: text) :
    IsBoundary text (byteLength before) := by
  obtain ⟨after, rfl⟩ := hbegins
  exact ⟨before, after, rfl, rfl⟩

theorem byteLength_le_of_prefix {s t : List Char} (hbegins : s <+: t) :
    byteLength s ≤ byteLength t := by
  obtain ⟨rest, rfl⟩ := hbegins
  rw [byteLength_append]
  exact Nat.le_add_right _ _

theorem byteLength_eq_zero {s : List Char} (h : byteLength s = 0) : s = [] := by
  cases s with
  | nil => rfl
  | cons c rest =>
    have hc : 0 < c.utf8Size := c.utf8Size_pos
    simp only [byteLength] at h
    omega

/-- Of two prefixes of one text the one with fewer bytes begins the other. -/
theorem prefix_of_byteLength_le {s t : List Char} (hs : s <+: text) (ht : t <+: text)
    (hle : byteLength s ≤ byteLength t) : s <+: t := by
  rcases List.prefix_or_prefix_of_prefix hs ht with hst | hts
  · exact hst
  · obtain ⟨rest, rfl⟩ := hts
    rw [byteLength_append] at hle
    have hrest : rest = [] := byteLength_eq_zero (by omega)
    exact ⟨[], by rw [hrest, List.append_nil, List.append_nil]⟩

theorem slice?_append (before piece beyond : List Char) :
    slice? (before ++ piece ++ beyond) (byteLength before) (byteLength (before ++ piece)) = some piece := by
  have hlength : byteLength (before ++ piece) = byteLength before + byteLength piece :=
    byteLength_append before piece
  rw [slice?, if_pos (by omega), List.append_assoc, dropBytes?_append, Option.bind_some, hlength,
    Nat.add_sub_cancel_left]
  exact takeBytes?_append piece beyond

/-- Two boundaries in order have a slice between them. -/
theorem slice?_of_isBoundary {start stop : Nat} (hstart : IsBoundary text start)
    (hstop : IsBoundary text stop) (hle : start ≤ stop) :
    ∃ piece, slice? text start stop = some piece := by
  obtain ⟨before, after, hsplit, rfl⟩ := hstart
  obtain ⟨upTo, beyond, hsplit', rfl⟩ := hstop
  obtain ⟨piece, rfl⟩ :=
    prefix_of_byteLength_le ⟨after, hsplit.symm⟩ ⟨beyond, hsplit'.symm⟩ hle
  refine ⟨piece, ?_⟩
  rw [hsplit']
  exact slice?_append before piece beyond

theorem takeBytes?_eq_some {n : Nat} {piece : List Char} (h : takeBytes? n text = some piece) :
    ∃ after, text = piece ++ after ∧ byteLength piece = n := by
  fun_induction takeBytes? n text generalizing piece with
  | case1 text =>
    obtain rfl := Option.some.inj h
    exact ⟨text, rfl, rfl⟩
  | case2 n => simp at h
  | case3 n c rest hle ih =>
    obtain ⟨piece, hpiece, rfl⟩ := Option.map_eq_some_iff.mp h
    obtain ⟨after, rfl, hlength⟩ := ih hpiece
    refine ⟨after, rfl, ?_⟩
    simp only [byteLength] at hlength ⊢
    omega
  | case4 n c rest hle => simp at h

theorem IsBoundary.le_byteLength {n : Nat} (h : IsBoundary text n) : n ≤ byteLength text := by
  obtain ⟨before, after, rfl, rfl⟩ := h
  rw [byteLength_append]
  exact Nat.le_add_right _ _

/-- Two offsets in order, inside the text and both at boundaries. -/
structure IsSlice (text : List Char) (start stop : Nat) : Prop where
  ordered : start ≤ stop
  within : stop ≤ byteLength text
  start : IsBoundary text start
  stop : IsBoundary text stop

theorem IsBoundary.isSlice {start stop : Nat} (hstart : IsBoundary text start)
    (hstop : IsBoundary text stop) (hle : start ≤ stop) : IsSlice text start stop :=
  ⟨hle, hstop.le_byteLength, hstart, hstop⟩

/-- A text can be cut exactly at its slices. -/
theorem slice?_isSome_iff {start stop : Nat} :
    (slice? text start stop).isSome ↔ IsSlice text start stop := by
  constructor
  · intro h
    obtain ⟨piece, hpiece⟩ := Option.isSome_iff_exists.mp h
    rw [slice?] at hpiece
    split_ifs at hpiece with hle
    obtain ⟨rest, hdrop, htake⟩ := Option.bind_eq_some_iff.mp hpiece
    obtain ⟨before, rfl, rfl⟩ := dropBytes?_eq_some hdrop
    obtain ⟨after, rfl, hlength⟩ := takeBytes?_eq_some htake
    have hstop : byteLength (before ++ piece) = stop := by
      rw [byteLength_append]
      omega
    have hboundary : IsBoundary (before ++ (piece ++ after)) stop :=
      ⟨before ++ piece, after, (List.append_assoc ..).symm, hstop⟩
    exact IsBoundary.isSlice ⟨before, piece ++ after, rfl, rfl⟩ hboundary hle
  · intro h
    obtain ⟨piece, hpiece⟩ := slice?_of_isBoundary h.start h.stop h.ordered
    rw [hpiece]
    rfl

/-- Trimming stops at a boundary: from the last visible character of a beginning on, the text can be
cut. -/
theorem isSlice_trimEnd {before : List Char} {start : Nat} (hbegins : before <+: text)
    (hle : byteLength before ≤ start) (hstart : IsBoundary text start) :
    IsSlice text (byteLength (trimEnd before)) start := by
  have htrimmed : trimEnd before <+: before := trimEnd_isPrefixOf before
  have hshorter : byteLength (trimEnd before) ≤ byteLength before := byteLength_le_of_prefix htrimmed
  have hboundary : IsBoundary text (byteLength (trimEnd before)) :=
    IsBoundary.byteLength_of_prefix (htrimmed.trans hbegins)
  exact hboundary.isSlice hstart (Nat.le_trans hshorter hle)

/-- The slice from the start of a text to a boundary is a prefix of that many bytes. -/
theorem slice?_zero {stop : Nat} (hstop : IsBoundary text stop) :
    ∃ before, slice? text 0 stop = some before ∧ before <+: text ∧ byteLength before = stop := by
  obtain ⟨before, after, rfl, rfl⟩ := hstop
  exact ⟨before, slice?_append [] before after, ⟨after, rfl⟩, rfl⟩

theorem isBoundary_min {m n : Nat} (hm : IsBoundary text m) (hn : IsBoundary text n) :
    IsBoundary text (min m n) := by
  rcases Nat.le_total m n with h | h
  · rwa [Nat.min_eq_left h]
  · rwa [Nat.min_eq_right h]

theorem isBoundary_max {m n : Nat} (hm : IsBoundary text m) (hn : IsBoundary text n) :
    IsBoundary text (max m n) := by
  rcases Nat.le_total m n with h | h
  · rwa [Nat.max_eq_right h]
  · rwa [Nat.max_eq_left h]

end Folio.Text

/-!
# Texts measured in bytes

Offsets into a source are counted in bytes of its UTF-8 form, while the text itself is a list of
characters. A cut at an offset exists only where a character begins or the text ends, so cutting is
partial: `dropBytes?` and `takeBytes?` answer `none` inside a character and past the end, and
`slice?` also when the end lies before the start.
-/

namespace Folio.Text

def byteLength : List Char → Nat
  | [] => 0
  | c :: rest => c.utf8Size + byteLength rest

/-- The text after its first `n` bytes. -/
def dropBytes? : Nat → List Char → Option (List Char)
  | 0, text => some text
  | _ + 1, [] => none
  | n + 1, c :: rest => if c.utf8Size ≤ n + 1 then dropBytes? (n + 1 - c.utf8Size) rest else none

/-- The first `n` bytes of the text. -/
def takeBytes? : Nat → List Char → Option (List Char)
  | 0, _ => some []
  | _ + 1, [] => none
  | n + 1, c :: rest =>
    if c.utf8Size ≤ n + 1 then (takeBytes? (n + 1 - c.utf8Size) rest).map (c :: ·) else none

/-- The bytes from `start` to `stop`. -/
def slice? (text : List Char) (start stop : Nat) : Option (List Char) :=
  if start ≤ stop then (dropBytes? start text).bind (takeBytes? (stop - start)) else none

theorem byteLength_append (s t : List Char) :
    byteLength (s ++ t) = byteLength s + byteLength t := by
  induction s with
  | nil => simp [byteLength]
  | cons c s ih => rw [List.cons_append, byteLength, byteLength, ih, Nat.add_assoc]

theorem utf8ByteSize_ofList (text : List Char) :
    (String.ofList text).utf8ByteSize = byteLength text := by
  induction text with
  | nil => rfl
  | cons c rest ih =>
    rw [byteLength, ← ih, ← String.utf8ByteSize_singleton, ← String.utf8ByteSize_append]
    congr 1
    simp

theorem dropBytes?_append (s t : List Char) : dropBytes? (byteLength s) (s ++ t) = some t := by
  induction s with
  | nil => simp [byteLength, dropBytes?]
  | cons c s ih =>
    have hc : 0 < c.utf8Size := c.utf8Size_pos
    obtain ⟨n, hn⟩ : ∃ n, byteLength (c :: s) = n + 1 := ⟨byteLength (c :: s) - 1, by
      simp only [byteLength]; omega⟩
    have hs : n + 1 - c.utf8Size = byteLength s := by
      simp only [byteLength] at hn ⊢; omega
    have hle : c.utf8Size ≤ n + 1 := by
      simp only [byteLength] at hn; omega
    rw [hn, List.cons_append, dropBytes?, if_pos hle, hs, ih]

theorem takeBytes?_append (s t : List Char) : takeBytes? (byteLength s) (s ++ t) = some s := by
  induction s with
  | nil => simp [byteLength, takeBytes?]
  | cons c s ih =>
    have hc : 0 < c.utf8Size := c.utf8Size_pos
    obtain ⟨n, hn⟩ : ∃ n, byteLength (c :: s) = n + 1 := ⟨byteLength (c :: s) - 1, by
      simp only [byteLength]; omega⟩
    have hs : n + 1 - c.utf8Size = byteLength s := by
      simp only [byteLength] at hn ⊢; omega
    have hle : c.utf8Size ≤ n + 1 := by
      simp only [byteLength] at hn; omega
    rw [hn, List.cons_append, takeBytes?, if_pos hle, hs, ih, Option.map_some]

end Folio.Text

/-!
# Blank characters

The Unicode property White_Space, and trimming by it. A zero width space and a byte order mark are
not blank; a no-break space and the ideographic space are. Every place of this library that trims a
text, counts a blank line or compares a fence uses this one class.
-/

namespace Folio.Text

/-- The property White_Space: five controls, the space and nineteen characters beyond them. -/
def isBlank (c : Char) : Bool :=
  let n := c.toNat
  (9 ≤ n && n ≤ 13) || n == 0x20 || n == 0x85 || n == 0xa0 || n == 0x1680 ||
    (0x2000 ≤ n && n ≤ 0x200a) || n == 0x2028 || n == 0x2029 || n == 0x202f || n == 0x205f ||
    n == 0x3000

def trimStart (text : List Char) : List Char :=
  text.dropWhile isBlank

def trimEnd (text : List Char) : List Char :=
  (text.reverse.dropWhile isBlank).reverse

def trim (text : List Char) : List Char :=
  trimEnd (trimStart text)

theorem trimEnd_isPrefixOf (text : List Char) : trimEnd text <+: text := by
  have h := List.reverse_prefix.2 (List.dropWhile_suffix isBlank (l := text.reverse))
  simpa [trimEnd] using h

end Folio.Text

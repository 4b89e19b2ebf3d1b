/-!
# Sets of code points

A property of characters is given by the ranges of code points that have it, ends included, in
ascending order.
-/

namespace Folio.Text

/-- A set of code points as ranges, both ends included. -/
abbrev Ranges := Array (Nat × Nat)

def Ranges.contains (ranges : Ranges) (c : Char) : Bool :=
  ranges.any fun (low, high) => low ≤ c.toNat && c.toNat ≤ high

end Folio.Text

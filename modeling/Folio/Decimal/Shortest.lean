import Folio.Decimal.Parts
/-!
# The fewest digits that read back

A reader maps a whole interval of numbers to one double. The shortest decimal of a double is the
number with the fewest significant digits in that interval, and among those the one nearest to the
double. For each count of digits only two candidates matter, the two neighbours of the value on the
decimal grid with that many digits: if any point of a grid lies in the interval, one of the two does.
Seventeen digits always suffice.
-/

namespace Folio.Decimal

/-- The decimal number `digits * 10 ^ exponent`. -/
structure Digits where
  digits : Nat
  exponent : Int
deriving DecidableEq, Repr

/-- The numbers that read back as `m * 2 ^ q`, given by their ends; the ends belong to it when `m` is
even, as a reader sends ties to the even significand. Below a power of two the gap is halved. -/
structure Interval where
  low : Ratio
  high : Ratio
  closed : Bool

def Interval.around (m : Nat) (q : Int) : Interval :=
  let narrow := m == Nat.pow 2 52 && q > -1074
  { low := if narrow then .scaled (4 * m - 1) 2 (q - 2) else .scaled (2 * m - 1) 2 (q - 1)
    high := .scaled (2 * m + 1) 2 (q - 1)
    closed := m % 2 == 0 }

def Interval.contains (i : Interval) (x : Ratio) : Bool :=
  if i.closed then i.low.le x && x.le i.high else i.low.lt x && x.lt i.high

/-- The place of the leading digit of a positive number `v`: the greatest `p` with `10 ^ p ≤ v`,
searched among the places that a double can have. -/
def leadingPlace (v : Ratio) : Int :=
  if v.den ≤ v.num then ((Nat.toDigits 10 (v.num / v.den)).length : Int) - 1
  else
    match (List.range 400).find? fun k => v.den ≤ v.num * Nat.pow 10 (k + 1) with
    | some k => -((k : Int) + 1)
    | none => -400

/-- The better of the two neighbours of `v` on the grid `10 ^ e`, if the interval has one. -/
def nearestOnGrid? (i : Interval) (v : Ratio) (e : Int) : Option Nat :=
  let onGrid := v.mul (.scaled 1 10 (-e))
  let below := onGrid.num / onGrid.den
  let doubled := 2 * (onGrid.num % onGrid.den)
  let lowFits := i.contains (.scaled below 10 e)
  let highFits := i.contains (.scaled (below + 1) 10 e)
  let preferHigh := onGrid.den < doubled || (onGrid.den == doubled && below % 2 == 1)
  if lowFits && highFits then some (if preferHigh then below + 1 else below)
  else if lowFits then some below
  else if highFits then some (below + 1)
  else none

/-- Moves trailing zeros of the digits into the exponent. -/
def Digits.normalize (d : Digits) : Nat → Digits
  | 0 => d
  | steps + 1 =>
    if d.digits != 0 && d.digits % 10 == 0 then
      Digits.normalize ⟨d.digits / 10, d.exponent + 1⟩ steps
    else d

/-- The shortest decimal of `m * 2 ^ q`. -/
def shortest (m : Nat) (q : Int) : Digits :=
  if m == 0 then ⟨0, 0⟩
  else
    let v := Ratio.scaled m 2 q
    let interval := Interval.around m q
    let place := leadingPlace v
    let grids := (List.range 17).map fun (k : Nat) => place - (k : Int)
    match grids.findSome? fun e => (nearestOnGrid? interval v e).map (Digits.mk · e) with
    | some d => d.normalize 17
    | none => ⟨0, 0⟩

end Folio.Decimal

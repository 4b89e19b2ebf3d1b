import Folio.Decimal.Shortest
/-!
# Written forms of a double

Three written forms. `plain` has the shortest digits, always positional, with no point in a whole
number. `fixed` has a given count of decimal places, rounded from the exact value with ties to the
even digit. `exponential` is the form of the data format: at least one decimal, and an exponent for
numbers that would need more than sixteen places before the point or more than five after it.

All three keep the sign of zero.
-/

namespace Folio.Decimal

def decimalDigits (n : Nat) : List Char :=
  Nat.toDigits 10 n

def zeros (n : Nat) : List Char :=
  List.replicate n '0'

/-- Writes `digits * 10 ^ -places` with exactly that many places. -/
def withPlaces (digits places : Nat) : List Char :=
  let text := decimalDigits digits
  let padded := zeros (places + 1 - text.length) ++ text
  let whole := padded.length - places
  if places = 0 then padded else padded.take whole ++ '.' :: padded.drop whole

def signed (negative : Bool) (text : List Char) : List Char :=
  if negative then '-' :: text else text

def Digits.positional (d : Digits) : List Char :=
  if 0 ≤ d.exponent then
    if d.digits = 0 then ['0'] else decimalDigits d.digits ++ zeros d.exponent.toNat
  else withPlaces d.digits (-d.exponent).toNat

/-- Shortest digits, positional: `10`, `0.1`, `-0`, `inf`, `NaN`. -/
def plain (x : Float) : List Char :=
  match Parts.ofFloat x with
  | .nan => ['N', 'a', 'N']
  | .infinite negative => signed negative ['i', 'n', 'f']
  | .finite negative m q => signed negative (shortest m q).positional

def plainString (x : Float) : String :=
  String.ofList (plain x)

@[simp] theorem toList_plainString (x : Float) : (plainString x).toList = plain x :=
  String.toList_ofList

/-- The nearest whole number to a quotient, a tie going to the even one. -/
def roundTiesToEven (r : Ratio) : Nat :=
  let below := r.num / r.den
  let doubled := 2 * (r.num % r.den)
  if r.den < doubled || (doubled == r.den && below % 2 == 1) then below + 1 else below

/-- Exactly `places` decimals of the exact value. -/
def fixed (places : Nat) (x : Float) : List Char :=
  match Parts.ofFloat x with
  | .nan => ['N', 'a', 'N']
  | .infinite negative => signed negative ['i', 'n', 'f']
  | .finite negative m q =>
    let scaled := (Ratio.scaled m 2 q).mul ⟨Nat.pow 10 places, 1⟩
    signed negative (withPlaces (roundTiesToEven scaled) places)

/-- One digit, a point where more follow, and the exponent. -/
def Digits.scientific (d : Digits) : List Char :=
  let text := decimalDigits d.digits
  let exponent := d.exponent + (text.length : Int) - 1
  let mantissa := match text with
    | [] => []
    | [first] => [first]
    | first :: rest => first :: '.' :: rest
  mantissa ++ 'e' :: (if exponent < 0 then ['-'] else []) ++ decimalDigits exponent.natAbs

/-- The number form of the data format; `none` for what it cannot write. -/
def exponential? (x : Float) : Option (List Char) :=
  match Parts.ofFloat x with
  | .finite negative m q =>
    let d := shortest m q
    let point := d.exponent + ((decimalDigits d.digits).length : Int)
    let body :=
      if d.digits = 0 then ['0', '.', '0']
      else if 0 ≤ d.exponent && point ≤ 16 then d.positional ++ ['.', '0']
      else if -5 < point && point ≤ 16 then d.positional
      else d.scientific
    some (signed negative body)
  | _ => none

end Folio.Decimal

import Folio.Text.Ascii
/-!
# Reading a double

The text of a number: an optional sign, then `inf`, `infinity` or `nan` in any case, or decimal
digits with an optional point and an optional exponent. At least one digit is required. The value is
the nearest double.
-/

namespace Folio.Decimal

/-- `digits * 10 ^ exponent`. Far outside the range of doubles the power is not computed. -/
def nearestDouble (digits : Nat) (exponent : Int) : Float :=
  if digits = 0 then 0
  else
    let place := exponent + ((Nat.toDigits 10 digits).length : Int)
    if place > 400 then 1.0 / 0.0
    else if place < -400 then 0
    else Float.ofScientific digits (exponent < 0) exponent.natAbs

/-- An exponent part, which may be absent; the letter asks for at least one digit. -/
def readExponent? : List Char → Option Int
  | [] => some 0
  | mark :: rest =>
    if mark = 'e' || mark = 'E' then
      let (negative, digits) := match rest with
        | '-' :: digits => (true, digits)
        | '+' :: digits => (false, digits)
        | digits => (false, digits)
      if digits ≠ [] && digits.all Text.isAsciiDigit then
        some (if negative then -(Text.digitsValue digits : Int) else Text.digitsValue digits)
      else none
    else none

def readUnsigned? (text : List Char) : Option Float :=
  let word := text.map Char.toLower
  if word = "inf".toList || word = "infinity".toList then some (1.0 / 0.0)
  else if word = "nan".toList then some (0.0 / 0.0)
  else
    let whole := text.takeWhile Text.isAsciiDigit
    let (fraction, rest) := match text.dropWhile Text.isAsciiDigit with
      | '.' :: rest => (rest.takeWhile Text.isAsciiDigit, rest.dropWhile Text.isAsciiDigit)
      | rest => ([], rest)
    if whole = [] && fraction = [] then none
    else (readExponent? rest).map fun e =>
      nearestDouble (Text.digitsValue (whole ++ fraction)) (e - (fraction.length : Int))

def readDouble? (text : List Char) : Option Float :=
  match text with
  | '-' :: rest => (readUnsigned? rest).map (- ·)
  | '+' :: rest => readUnsigned? rest
  | rest => readUnsigned? rest

end Folio.Decimal

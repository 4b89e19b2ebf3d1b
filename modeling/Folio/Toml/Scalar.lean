import Folio.Text.Ascii
import Folio.Toml.Basic
/-!
# Numbers, truth values and moments

Scalars that are written without quotes. An integer is decimal with an optional sign, or has a base
mark; a float has a fraction, an exponent or both, or is one of the special values; underscores may
stand between digits. A moment is a date, a time or both, and both may have an offset.
-/

namespace Folio.Toml

/-- Characters of a scalar. -/
def isScalarChar (c : Char) : Bool :=
  Text.isAsciiAlphanumeric c || c = '+' || c = '-' || c = '_' || c = '.' || c = ':'

/-- Digits, each underscore among them between two. -/
def isDigits (ofBase : Char → Bool) (text : List Char) : Bool :=
  (text.splitOn '_').all fun group => !group.isEmpty && group.all ofBase

def dropSign : List Char → List Char
  | '+' :: rest => rest
  | '-' :: rest => rest
  | text => text

/-- A decimal integer without its sign; a leading zero stands alone. -/
def isDecimal (text : List Char) : Bool :=
  isDigits Text.isAsciiDigit text && (text.head? ≠ some '0' || text.length = 1)

def isExponentMark (c : Char) : Bool :=
  c = 'e' || c = 'E'

/-- A decimal number without its sign, with a fraction or an exponent if it has one. -/
def isDecimalNumber (text : List Char) : Bool :=
  let mantissa := text.takeWhile fun c => !isExponentMark c
  let whole := mantissa.takeWhile (· ≠ '.')
  let exponent := text.drop mantissa.length
  let fraction := mantissa.drop whole.length
  isDecimal whole
    && (fraction.isEmpty || isDigits Text.isAsciiDigit (fraction.drop 1))
    && (exponent.isEmpty || isDigits Text.isAsciiDigit (dropSign (exponent.drop 1)))

def isNumber (text : List Char) : Bool :=
  match text with
  | '0' :: 'x' :: digits => isDigits Text.isHexDigit digits
  | '0' :: 'o' :: digits => isDigits (fun c => '0' ≤ c && c ≤ '7') digits
  | '0' :: 'b' :: digits => isDigits (fun c => c = '0' || c = '1') digits
  | _ =>
    let unsigned := dropSign text
    unsigned = "inf".toList || unsigned = "nan".toList || isDecimalNumber unsigned

/-- The value of exactly `n` digits at the beginning, and what remains. -/
def fixedDigits? (n : Nat) (text : List Char) : Option (Nat × List Char) :=
  let digits := text.take n
  if digits.length = n && digits.all Text.isAsciiDigit then
    some (Text.digitsValue digits, text.drop n)
  else none

def expect? (c : Char) : List Char → Option (List Char)
  | first :: rest => if first = c then some rest else none
  | [] => none

def isLeapYear (year : Nat) : Bool :=
  year % 4 = 0 && (year % 100 ≠ 0 || year % 400 = 0)

def daysInMonth (year month : Nat) : Nat :=
  if month = 2 then if isLeapYear year then 29 else 28
  else if month = 4 || month = 6 || month = 9 || month = 11 then 30
  else 31

/-- After a date. -/
def date? (text : List Char) : Option (List Char) := do
  let (year, rest) ← fixedDigits? 4 text
  let (month, rest) ← fixedDigits? 2 (← expect? '-' rest)
  let (day, rest) ← fixedDigits? 2 (← expect? '-' rest)
  if 1 ≤ month && month ≤ 12 && 1 ≤ day && day ≤ daysInMonth year month then some rest else none

/-- After hours and minutes. -/
def clock? (text : List Char) : Option (List Char) := do
  let (hours, rest) ← fixedDigits? 2 text
  let (minutes, rest) ← fixedDigits? 2 (← expect? ':' rest)
  if hours ≤ 23 && minutes ≤ 59 then some rest else none

/-- After a time; the seconds may be left out. A leap second is a second too. -/
def time? (text : List Char) : Option (List Char) := do
  let rest ← clock? text
  match rest with
  | ':' :: rest =>
    let (seconds, rest) ← fixedDigits? 2 rest
    if 60 < seconds then none
    else
      match rest with
      | '.' :: rest =>
        if (rest.head?.map Text.isAsciiDigit).getD false then some (rest.dropWhile Text.isAsciiDigit) else none
      | rest => some rest
  | rest => some rest

/-- Whether an offset from universal time, or nothing, is all of a text. -/
def isOffset : List Char → Bool
  | [] => true
  | 'Z' :: rest | 'z' :: rest => rest.isEmpty
  | '+' :: rest | '-' :: rest => clock? rest = some []
  | _ => false

/-- Whether a character stands between a date and a time. -/
def isDateEnd (c : Char) : Bool :=
  c = 'T' || c = 't' || c = ' '

def isMoment (text : List Char) : Bool :=
  match date? text with
  | some [] => true
  | some (c :: rest) => isDateEnd c && ((time? rest).map isOffset).getD false
  | none => time? text = some []

/-- The value that a scalar stands for. -/
def scalar? (text : List Char) : Option Value :=
  if text = "true".toList then some (.boolean true)
  else if text = "false".toList then some (.boolean false)
  else if isNumber text then some (.number (String.ofList text))
  else if isMoment text then some (.moment (String.ofList text))
  else none

end Folio.Toml

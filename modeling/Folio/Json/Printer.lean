import Folio.Json.Basic
import Folio.Decimal.Written
/-!
# Writing data values

Two layouts of one grammar. The compact layout has no blanks. The spread layout puts every item and
every member on its own line, two spaces deeper than its parent; an empty array or object stays on
one line. In strings the two marks, the controls and nothing else are escaped.
-/

namespace Folio.Json

/-- A control without a short escape has four hexadecimal digits. -/
def escapedChar (c : Char) : List Char :=
  match c with
  | '"' => ['\\', '"']
  | '\\' => ['\\', '\\']
  | '\n' => ['\\', 'n']
  | '\r' => ['\\', 'r']
  | '\t' => ['\\', 't']
  | '\x08' => ['\\', 'b']
  | '\x0c' => ['\\', 'f']
  | c =>
    if c.toNat < 0x20 then
      let digits := Nat.toDigits 16 c.toNat
      '\\' :: 'u' :: List.replicate (4 - digits.length) '0' ++ digits
    else [c]

def stringText (value : String) : String :=
  String.ofList ('"' :: value.toList.flatMap escapedChar ++ ['"'])

def doubleText (value : Float) : String :=
  match Decimal.exponential? value with
  | some written => String.ofList written
  | none => "null"

mutual

def compact : Json → String
  | null => "null"
  | bool value => if value then "true" else "false"
  | nat value => Nat.repr value
  | double value => doubleText value
  | text value => stringText value
  | array items => "[" ++ compactItems items ++ "]"
  | object members => "\x7b" ++ compactMembers members ++ "\x7d"

def compactItems : List Json → String
  | [] => ""
  | [item] => compact item
  | item :: rest => compact item ++ "," ++ compactItems rest

def compactMembers : List (String × Json) → String
  | [] => ""
  | [(name, value)] => stringText name ++ ":" ++ compact value
  | (name, value) :: rest => stringText name ++ ":" ++ compact value ++ "," ++ compactMembers rest

end

/-- A line break and the indentation of a depth. -/
def lineAt (depth : Nat) : String :=
  String.ofList ('\n' :: List.replicate (2 * depth) ' ')

mutual

def spreadAt (depth : Nat) : Json → String
  | array [] => "[]"
  | array items => "[" ++ spreadItems (depth + 1) items ++ lineAt depth ++ "]"
  | object [] => "\x7b\x7d"
  | object members => "\x7b" ++ spreadMembers (depth + 1) members ++ lineAt depth ++ "\x7d"
  | null => "null"
  | bool value => if value then "true" else "false"
  | nat value => Nat.repr value
  | double value => doubleText value
  | text value => stringText value

def spreadItems (depth : Nat) : List Json → String
  | [] => ""
  | [item] => lineAt depth ++ spreadAt depth item
  | item :: rest => lineAt depth ++ spreadAt depth item ++ "," ++ spreadItems depth rest

def spreadMembers (depth : Nat) : List (String × Json) → String
  | [] => ""
  | [(name, value)] => lineAt depth ++ stringText name ++ ": " ++ spreadAt depth value
  | (name, value) :: rest =>
    lineAt depth ++ stringText name ++ ": " ++ spreadAt depth value ++ "," ++
      spreadMembers depth rest

end

def spread (value : Json) : String :=
  spreadAt 0 value

end Folio.Json

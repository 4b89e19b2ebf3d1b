import Folio.Text.Printable
/-!
# Quoted previews

The quoted form of a text in a log line: double quotes around it, the usual short escapes for the
quote, the backslash, tab, newline, carriage return and the null character, a hexadecimal escape for
every other character that does not print as itself, and all else verbatim. Single quotes are not
escaped.
-/

namespace Folio.Text

/-- The digits of a number in base sixteen, in lower case and without leading zeros. -/
def hexDigits (n : Nat) : List Char :=
  Nat.toDigits 16 n

/-- A backslash, the letter u and the code point in braces. -/
def codeEscape (c : Char) : List Char :=
  '\\' :: 'u' :: '{' :: hexDigits c.toNat ++ ['}']

def quotedChar (c : Char) : List Char :=
  match c with
  | '\x00' => ['\\', '0']
  | '\t' => ['\\', 't']
  | '\r' => ['\\', 'r']
  | '\n' => ['\\', 'n']
  | '"' => ['\\', '"']
  | '\\' => ['\\', '\\']
  | c => if isPrintable c then [c] else codeEscape c

def quoted (text : List Char) : List Char :=
  '"' :: text.flatMap quotedChar ++ ['"']

end Folio.Text

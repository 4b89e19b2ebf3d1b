import Folio.Text.Quoted
/-!
# String literals of the markup

A text enters the markup only as a string literal: double quotes around it, an escape for the quote,
the backslash, line feed, carriage return and tab, a hexadecimal escape for the other controls, and
every other character verbatim. A literal therefore ends at its own closing quote and holds no
control character.
-/

namespace Folio.Typst

/-- The controls are the code points below the space and those from 7f to 9f. -/
def isControl (c : Char) : Bool :=
  c.toNat < 0x20 || (0x7f ≤ c.toNat && c.toNat ≤ 0x9f)

def literalChar (c : Char) : List Char :=
  match c with
  | '\\' => ['\\', '\\']
  | '"' => ['\\', '"']
  | '\n' => ['\\', 'n']
  | '\r' => ['\\', 'r']
  | '\t' => ['\\', 't']
  | c => if isControl c then Text.codeEscape c else [c]

def literal (text : List Char) : List Char :=
  '"' :: text.flatMap literalChar ++ ['"']

end Folio.Typst

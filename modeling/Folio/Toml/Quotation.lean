import Folio.Text.Ascii
/-!
# Quoted texts

A text in double quotes has escapes, a text in single quotes has none. Three quotes begin a text of
several lines: a line end right after them does not count, two of the quotes may stand inside, and in
double quotes a backslash at the end of a line drops the line end and all blanks up to the next
character.
-/

namespace Folio.Toml

/-- Control characters other than the tab may not stand anywhere. -/
def isControl (c : Char) : Bool :=
  (c.toNat < 0x20 && c ≠ '\t') || c.toNat = 0x7f

/-- After a line end. -/
def newline? : List Char → Option (List Char)
  | '\n' :: rest => some rest
  | '\r' :: '\n' :: rest => some rest
  | _ => none

/-- The character that `n` hexadecimal digits name, and what remains. -/
def codePoint? (n : Nat) (text : List Char) : Option (Char × List Char) :=
  let digits := text.take n
  if digits.length = n && digits.all Text.isHexDigit then
    let code := Text.hexValue digits
    if h : code.isValidChar then some (Char.ofNatAux code h, text.drop n) else none
  else none

/-- What an escape stands for, after its backslash. -/
def escape? (text : List Char) : Option (Char × List Char) :=
  match text with
  | 'b' :: rest => some ('\x08', rest)
  | 't' :: rest => some ('\t', rest)
  | 'n' :: rest => some ('\n', rest)
  | 'f' :: rest => some ('\x0c', rest)
  | 'r' :: rest => some ('\r', rest)
  | 'e' :: rest => some ('\x1b', rest)
  | '"' :: rest => some ('"', rest)
  | '\\' :: rest => some ('\\', rest)
  | 'x' :: rest => codePoint? 2 rest
  | 'u' :: rest => codePoint? 4 rest
  | 'U' :: rest => codePoint? 8 rest
  | _ => none

/-- After blanks, a line end and all blanks and line ends that follow it. -/
def lineJoin? (text : List Char) : Option (List Char) :=
  (newline? (text.dropWhile Text.isSpaceOrTab)).map fun rest =>
    rest.dropWhile fun c => Text.isSpaceOrTab c || c = '\n' || c = '\r'

/-- A text on one line up to its closing quote. -/
def lineText? (quote : Char) : Nat → List Char → Option (List Char × List Char)
  | 0, _ => none
  | fuel + 1, text =>
    match text with
    | [] => none
    | c :: rest =>
      if c = quote then some ([], rest)
      else if c = '\\' && quote = '"' then do
        let (value, rest) ← escape? rest
        let (more, rest) ← lineText? quote fuel rest
        some (value :: more, rest)
      else if isControl c then none
      else (lineText? quote fuel rest).map fun (more, rest) => (c :: more, rest)

/-- A text of several lines up to its closing quotes. -/
def linesText? (quote : Char) : Nat → List Char → Option (List Char × List Char)
  | 0, _ => none
  | fuel + 1, text =>
    match text with
    | [] => none
    | c :: rest =>
      if c = quote then
        let quotes := (text.takeWhile (· = quote)).length
        if 5 < quotes then none
        else if 3 ≤ quotes then some (List.replicate (quotes - 3) quote, text.drop quotes)
        else
          (linesText? quote fuel (text.drop quotes)).map fun (more, rest) =>
            (List.replicate quotes quote ++ more, rest)
      else if c = '\\' && quote = '"' then
        match lineJoin? rest with
        | some rest => linesText? quote fuel rest
        | none => do
          let (value, rest) ← escape? rest
          let (more, rest) ← linesText? quote fuel rest
          some (value :: more, rest)
      else
        match newline? text with
        | some rest =>
          (linesText? quote fuel rest).map fun (more, rest) => ('\n' :: more, rest)
        | none =>
          if isControl c then none
          else (linesText? quote fuel rest).map fun (more, rest) => (c :: more, rest)

/-- A text on one line, from its opening quote on. -/
def lineQuotation? (text : List Char) : Option (List Char × List Char) :=
  match text with
  | c :: rest => if c = '"' || c = '\'' then lineText? c (text.length + 1) rest else none
  | [] => none

/-- A text, from its opening quotes on. -/
def quotation? (text : List Char) : Option (List Char × List Char) :=
  match text with
  | a :: b :: c :: rest =>
    if a = b && b = c && (a = '"' || a = '\'') then
      linesText? a (text.length + 1) ((newline? rest).getD rest)
    else lineQuotation? text
  | _ => lineQuotation? text

end Folio.Toml

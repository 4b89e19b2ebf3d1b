import Folio.Markdown.Scan
import Folio.Text.Ascii
import Folio.Text.CaseFold
import Folio.Text.NamedCharacter
import Folio.Text.Punctuation
/-!
# Links and what they refer to

The parts of links: labels, destinations and titles, the character references and escapes in them,
and the table of definitions. A label is compared after trimming, after making every run of blanks
one space and after case folding; the first definition of a label counts.

A label or a title may go on over line ends. How a line goes on hangs on where it stands, so the
scanners are given that as a function, which answers `none` where the text ends instead.
-/

namespace Folio.Markdown

/-- How the text goes on after a line end. -/
abbrev NextLine := List Char → Option (List Char)

/-- The character that a number stands for. -/
def characterOfCode? (code : Nat) : Option Char :=
  if code = 0 then some '\ufffd'
  else if h : code.isValidChar then some (Char.ofNatAux code h)
  else none

/-- A character reference at an ampersand: its text and what remains. -/
def characterReference? (text : List Char) : Option (List Char × List Char) :=
  match text with
  | '&' :: '#' :: rest =>
    let (digits, code, after) :=
      match rest with
      | c :: hex =>
        if c = 'x' || c = 'X' then
          let digits := (hex.take 6).takeWhile Text.isHexDigit
          (digits, Text.hexValue digits, hex.drop digits.length)
        else
          let digits := (rest.take 7).takeWhile Text.isAsciiDigit
          (digits, Text.digitsValue digits,
            rest.drop digits.length)
      | [] => ([], 0, [])
    match digits, after with
    | _ :: _, ';' :: after => (characterOfCode? code).map fun c => ([c], after)
    | _, _ => none
  | '&' :: rest =>
    match rest.dropWhile Text.isAsciiAlphanumeric with
    | ';' :: after =>
      (Text.namedCharacter? (String.ofList (rest.takeWhile Text.isAsciiAlphanumeric))).map fun s =>
        (s.toList, after)
    | _ => none
  | _ => none

/-- Replaces escapes and character references; carriage returns are left out. -/
def unescape : Nat → List Char → List Char
  | 0, _ => []
  | _ + 1, [] => []
  | fuel + 1, c :: rest =>
    if c = '\\' then
      match rest with
      | d :: rest' =>
        if Text.isAsciiPunctuation d then d :: unescape fuel rest' else c :: unescape fuel rest
      | [] => [c]
    else if c = '&' then
      match characterReference? (c :: rest) with
      | some (value, after) => value ++ unescape fuel after
      | none => c :: unescape fuel rest
    else if c = '\r' then unescape fuel rest
    else c :: unescape fuel rest

def unescaped (text : List Char) : String :=
  String.ofList (unescape (text.length + 1) text)

/-- How deep parentheses may be nested in the destination of a link. -/
def maxLinkNesting : Nat := 32

/-- How deep parentheses may be nested in the destination of a definition. -/
def maxDefinitionNesting : Nat := 1

/-- A destination in angles, after the opening one. -/
def angledDestination? : List Char → Option (List Char × List Char)
  | [] => none
  | '>' :: rest => some ([], rest)
  | '\\' :: c :: rest =>
    if Text.isAsciiPunctuation c then
      (angledDestination? rest).map fun (dest, after) => ('\\' :: c :: dest, after)
    else (angledDestination? (c :: rest)).map fun (dest, after) => ('\\' :: dest, after)
  | c :: rest =>
    if isLineEnd c || c = '<' then none
    else (angledDestination? rest).map fun (dest, after) => (c :: dest, after)

/-- A bare destination, which ends before a blank or an unmatched closing parenthesis. -/
def bareDestination? (nesting depth : Nat) : List Char → Option (List Char × List Char)
  | [] => if depth = 0 then some ([], []) else none
  | '\\' :: c :: rest =>
    if Text.isAsciiPunctuation c then
      (bareDestination? nesting depth rest).map fun (dest, after) => ('\\' :: c :: dest, after)
    else
      (bareDestination? nesting depth (c :: rest)).map fun (dest, after) => ('\\' :: dest, after)
  | c :: rest =>
    if c.toNat ≤ 0x20 then if depth = 0 then some ([], c :: rest) else none
    else if c = '(' then
      if nesting < depth then none
      else (bareDestination? nesting (depth + 1) rest).map fun (dest, after) => (c :: dest, after)
    else if c = ')' then
      if depth = 0 then some ([], c :: rest)
      else (bareDestination? nesting (depth - 1) rest).map fun (dest, after) => (c :: dest, after)
    else (bareDestination? nesting depth rest).map fun (dest, after) => (c :: dest, after)

/-- A destination as it is written, and what remains. -/
def destination? (nesting : Nat) : List Char → Option (List Char × List Char)
  | '<' :: rest => angledDestination? rest
  | text => bareDestination? nesting 0 text

/-- The longest label, in characters. -/
def maxLabel : Nat := 999

/-- The text of a label up to its closing bracket, which is read too. Blanks are kept as they are but
for line ends, which read as one space. -/
def labelText? (next : NextLine) : Nat → List Char → Option (List Char × List Char)
  | 0, _ => none
  | fuel + 1, text =>
    match text with
    | [] => none
    | '[' :: _ => none
    | ']' :: rest => some ([], rest)
    | '\\' :: c :: rest =>
      if isLineEnd c then (labelText? next fuel (c :: rest)).map fun (label, after) => ('\\' :: label, after)
      else (labelText? next fuel rest).map fun (label, after) => ('\\' :: c :: label, after)
    | c :: rest =>
      if isLineEnd c then do
        let after ← lineEnd? (c :: rest)
        let onward ← next after
        if atLineEnd (skipBlanks onward) then none
        else
          let (label, after) ← labelText? next fuel onward
          some (' ' :: label, after)
      else (labelText? next fuel rest).map fun (label, after) => (c :: label, after)

/-- Drops leading blanks and makes every other run of them one space. -/
def collapseBlanks : List Char → List Char
  | [] => []
  | c :: rest =>
    if isAsciiBlank c then
      match collapseBlanks rest with
      | [] => []
      | more@(d :: _) => if d = ' ' then more else ' ' :: more
    else c :: collapseBlanks rest

def normalizeLabel (label : List Char) : List Char :=
  (collapseBlanks label).dropWhile (· = ' ')

/-- A label after its opening bracket: its normal text and what remains. -/
def label? (next : NextLine) (text : List Char) : Option (List Char × List Char) := do
  let (label, rest) ← labelText? next (text.length + 1) text
  if label.all isAsciiBlank || maxLabel < label.length then none
  else some (normalizeLabel label, rest)

/-- The mark that closes a title opened by `c`. -/
def titleEnd? (c : Char) : Option Char :=
  if c = '"' || c = '\'' then some c else if c = '(' then some ')' else none

/-- After a title, whose opening mark has been read. -/
def titleRest? (next : NextLine) (close : Char) : Nat → List Char → Option (List Char)
  | 0, _ => none
  | fuel + 1, text =>
    match text with
    | [] => none
    | '\\' :: c :: rest =>
      if isLineEnd c then titleRest? next close fuel (c :: rest) else titleRest? next close fuel rest
    | c :: rest =>
      if c = close then some rest
      else if c = '(' && close = ')' then none
      else if isLineEnd c then do
        let after ← lineEnd? (c :: rest)
        let onward ← next after
        titleRest? next close fuel onward
      else titleRest? next close fuel rest

/-- After a title. -/
def title? (next : NextLine) (text : List Char) : Option (List Char) :=
  match text with
  | c :: rest => (titleEnd? c).bind fun close => titleRest? next close (text.length + 1) rest
  | [] => none

/-- Blanks with at most one line end among them: whether there was one, and what remains. -/
def separator? (next : NextLine) (text : List Char) : Option (Bool × List Char) := do
  let rest := skipBlanks text
  match rest with
  | c :: _ =>
    if isLineEnd c then
      let after ← lineEnd? rest
      let onward ← next after
      let rest := skipBlanks onward
      if atLineEnd rest then none else some (true, rest)
    else some (false, rest)
  | [] => some (true, [])

/-- A definition found in the source. -/
structure Definition where
  label : List Char
  target : String

/-- A definition at an opening bracket, and the text after its line. A title that does not end its
line belongs to the definition's paragraph if it starts a line of its own, and spoils the definition
if not. -/
def definition? (within next : NextLine) (text : List Char) :
    Option (Definition × List Char) := do
  let '[' :: text := text | none
  let (label, rest) ← label? next text
  let ':' :: rest := rest | none
  let (_, rest) ← separator? within rest
  let (target, afterTarget) ← destination? maxDefinitionNesting rest
  if consumed rest afterTarget = [] then none
  else
    let definition : Definition := ⟨Text.foldCase label, unescaped target⟩
    let plain := (blankLine? afterTarget).map (definition, ·)
    match separator? within afterTarget with
    | none => plain
    | some (broken, rest) =>
      if rest.length = afterTarget.length && !broken then none
      else
        match (title? next rest).bind blankLine? with
        | some after => some (definition, after)
        | none => if broken then plain else none

/-- What the definitions of a text say. -/
structure References where
  definitions : List Definition := []
  footnotes : List (List Char) := []

def References.target? (references : References) (label : List Char) : Option String :=
  (references.definitions.find? (·.label == Text.foldCase label)).map (·.target)

def References.hasFootnote (references : References) (label : List Char) : Bool :=
  references.footnotes.contains (Text.foldCase label)

end Folio.Markdown

/-!
# Character classes and line ends

A reader of markdown works on the text that remains. The functions here look at its beginning and
answer what is left after what they recognise.

A line ends with a line feed, a carriage return, or the two together; the end of the text ends its
last line.
-/

namespace Folio.Markdown

/-- A blank inside a line, in ASCII. -/
def isLineBlank (c : Char) : Bool :=
  c = ' ' || c = '\t' || c = '\x0b' || c = '\x0c'

def isLineEnd (c : Char) : Bool :=
  c = '\n' || c = '\r'

def isAsciiBlank (c : Char) : Bool :=
  isLineBlank c || isLineEnd c

/-- After a line end. -/
def lineEnd? : List Char → Option (List Char)
  | [] => some []
  | '\n' :: rest => some rest
  | '\r' :: '\n' :: rest => some rest
  | '\r' :: rest => some rest
  | _ => none

def atLineEnd : List Char → Bool
  | [] => true
  | c :: _ => isLineEnd c

def skipBlanks (text : List Char) : List Char :=
  text.dropWhile isLineBlank

/-- After a line that holds only blanks. -/
def blankLine? (text : List Char) : Option (List Char) :=
  lineEnd? (skipBlanks text)

def isBlankLine (text : List Char) : Bool :=
  (blankLine? text).isSome

/-- The first line with its end, where only a line feed ends a line. -/
def feedLine : List Char → List Char
  | [] => []
  | c :: rest => if c = '\n' then [c] else c :: feedLine rest

/-- After the first line feed. -/
def afterFeed : List Char → List Char
  | [] => []
  | c :: rest => if c = '\n' then rest else afterFeed rest

/-- After the line end of the first line. -/
def afterLine (text : List Char) : List Char :=
  let rest := text.dropWhile fun c => !isLineEnd c
  (lineEnd? rest).getD rest

/-- How many times a character stands at the beginning. -/
def repeated (c : Char) (text : List Char) : Nat :=
  (text.takeWhile (· = c)).length

/-- After one given character, or the text itself. -/
def skipOne (c : Char) : List Char → List Char
  | first :: rest => if first = c then rest else first :: rest
  | [] => []

/-- What was read of a text when `rest` remains of it. -/
def consumed (text rest : List Char) : List Char :=
  text.take (text.length - rest.length)

def equalIgnoringCase (s t : List Char) : Bool :=
  s.map Char.toLower == t.map Char.toLower

end Folio.Markdown

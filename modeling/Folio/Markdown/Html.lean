import Folio.Markdown.Scan
import Folio.Text.Ascii
import Folio.Text.Search
/-!
# HTML in markdown

A tag is recognised by its shape alone: a name, attributes with or without values, and the closing
angle. Inside a paragraph a tag may run over several lines; what the containers of the paragraph put
at the beginning of a line is then not part of it, so the scanner is given how a line goes on, and
returns the text of the tag beside what remains. Where a tag has to stay on its line it is given
`none`.

A block of HTML starts in one of seven ways. The first five end with the line that holds a given mark,
the other two with a blank line.
-/

namespace Folio.Markdown.Html

/-- How the text goes on after a line end inside a tag; `none` if it may not. -/
abbrev Continuation := Option (List Char → List Char)

/-- Text that was read, and what remains. -/
abbrev Piece := List Char × List Char

/-- Blanks, and line ends as far as they are allowed. -/
def blanks? (next : Continuation) : Nat → List Char → Option Piece
  | 0, _ => none
  | fuel + 1, text =>
    let space := text.takeWhile isLineBlank
    let rest := text.dropWhile isLineBlank
    match rest with
    | c :: _ =>
      if isLineEnd c then
        match next, lineEnd? rest with
        | some go, some after =>
          (blanks? next fuel (go after)).map fun (more, rest') =>
            (space ++ consumed rest after ++ more, rest')
        | _, _ => none
      else some (space, rest)
    | [] => some (space, [])

def isNameChar (c : Char) : Bool :=
  Text.isAsciiAlphanumeric c || c = '-'

def isAttributeChar (c : Char) : Bool :=
  Text.isAsciiAlphanumeric c || c = '_' || c = '.' || c = ':' || c = '-'

def tagName? (text : List Char) : Option Piece :=
  match text with
  | c :: _ =>
    if Text.isAsciiLetter c then some (text.takeWhile isNameChar, text.dropWhile isNameChar) else none
  | [] => none

def attributeName? (text : List Char) : Option Piece :=
  match text with
  | c :: rest =>
    if Text.isAsciiLetter c || c = '_' || c = ':' then
      some (c :: rest.takeWhile isAttributeChar, rest.dropWhile isAttributeChar)
    else none
  | [] => none

/-- Up to and with a closing quote. -/
def quotedValue? (next : Continuation) (quote : Char) : Nat → List Char → Option Piece
  | 0, _ => none
  | fuel + 1, text =>
    let plain := text.takeWhile fun c => c != quote && !isLineEnd c
    let rest := text.dropWhile fun c => c != quote && !isLineEnd c
    match rest with
    | [] => none
    | c :: after =>
      if c = quote then some (plain ++ [c], after)
      else
        match next, lineEnd? rest with
        | some go, some after =>
          (quotedValue? next quote fuel (go after)).map fun (more, rest') =>
            (plain ++ consumed rest after ++ more, rest')
        | _, _ => none

def isBareValueChar (c : Char) : Bool :=
  !(c = '\'' || c = '"' || c = ' ' || c = '=' || c = '>' || c = '<' || c = '\x60' || isLineEnd c)

def attributeValue? (next : Continuation) (fuel : Nat) (text : List Char) : Option Piece :=
  match text with
  | [] => none
  | c :: rest =>
    if c = '"' || c = '\'' then
      (quotedValue? next c fuel rest).map fun (value, rest') => (c :: value, rest')
    else if isBareValueChar c then
      some (text.takeWhile isBareValueChar, text.dropWhile isBareValueChar)
    else none

/-- A name and, after an equals sign, a value. -/
def attribute? (next : Continuation) (fuel : Nat) (text : List Char) : Option Piece := do
  let (name, afterName) ← attributeName? text
  let (space, rest) ← blanks? next fuel afterName
  match rest with
  | '=' :: rest =>
    let (space', rest) ← blanks? next fuel rest
    let (value, rest) ← attributeValue? next fuel rest
    some (name ++ space ++ '=' :: space' ++ value, rest)
  | _ => some (name, afterName)

/-- Attributes, each after a blank, up to the mark that closes the tag. -/
def attributes? (next : Continuation) : Nat → List Char → Option Piece
  | 0, _ => none
  | fuel + 1, text => do
    let (space, rest) ← blanks? next (fuel + 1) text
    match rest with
    | '/' :: _ | '>' :: _ => some (space, rest)
    | _ =>
      if space.isEmpty then none
      else
        let (one, rest) ← attribute? next (fuel + 1) rest
        let (more, rest) ← attributes? next fuel rest
        some (space ++ one ++ more, rest)

/-- The closing angle, after blanks. -/
def closeAngle? (text : List Char) : Option Piece :=
  match text.dropWhile isLineBlank with
  | '>' :: rest => some (text.takeWhile isLineBlank ++ ['>'], rest)
  | _ => none

/-- An open or closing tag, from its angle on. -/
def tag? (next : Continuation) (text : List Char) : Option Piece :=
  match text with
  | '<' :: '/' :: rest => do
    let (name, rest) ← tagName? rest
    let (close, rest) ← closeAngle? rest
    some ('<' :: '/' :: name ++ close, rest)
  | '<' :: rest => do
    let (name, rest) ← tagName? rest
    let (attributes, rest) ← attributes? next (rest.length + 1) rest
    let slash := if rest.head? = some '/' then ['/'] else []
    let (close, rest) ← closeAngle? (rest.drop slash.length)
    some ('<' :: name ++ attributes ++ slash ++ close, rest)
  | _ => none

/-- A comment, a declaration, a processing instruction or a character data section, from its angle
on: what remains after it. -/
def markup? (text : List Char) : Option (List Char) :=
  match text with
  | '<' :: '!' :: '-' :: '-' :: '>' :: rest => some rest
  | '<' :: '!' :: '-' :: '-' :: '-' :: '>' :: rest => some rest
  | '<' :: '!' :: '-' :: '-' :: rest => Text.after? "-->".toList rest
  | '<' :: '?' :: rest => Text.after? "?>".toList rest
  | '<' :: '!' :: c :: rest =>
    if Text.isAsciiLetter c then Text.after? ['>'] rest
    else if "[CDATA[".toList.isPrefixOf (c :: rest) then Text.after? "]]>".toList (rest.drop 6)
    else none
  | _ => none

/-- Tags whose content is not read, with the marks that end their blocks. -/
def verbatimTags : List (String × String) :=
  [("pre", "</pre>"), ("style", "</style>"), ("script", "</script>"), ("textarea", "</textarea>")]

/-- Whether a tag name stands at the beginning, in any case, followed by a blank, an angle or the
end. -/
def startsVerbatim (name text : List Char) : Bool :=
  equalIgnoringCase (text.take name.length) name &&
    match text.drop name.length with
    | [] => text.length = name.length
    | c :: _ => isAsciiBlank c || c = '>'

/-- The mark that ends a block of the first five kinds; the text is that after the angle. -/
def endMark? (text : List Char) : Option (List Char) :=
  match verbatimTags.find? fun (name, _) => startsVerbatim name.toList text with
  | some (_, mark) => some mark.toList
  | none =>
    match text with
    | '!' :: '-' :: '-' :: _ => some "-->".toList
    | '?' :: _ => some "?>".toList
    | '!' :: c :: rest =>
      if "[CDATA[".toList.isPrefixOf (c :: rest) then some "]]>".toList
      else if Text.isAsciiLetter c then some ['>']
      else none
    | _ => none

/-- Tags that start a block wherever they open or close. -/
def blockTags : List String :=
  ["address", "article", "aside", "base", "basefont", "blockquote", "body", "caption", "center",
    "col", "colgroup", "dd", "details", "dialog", "dir", "div", "dl", "dt", "fieldset",
    "figcaption", "figure", "footer", "form", "frame", "frameset", "h1", "h2", "h3", "h4", "h5",
    "h6", "head", "header", "hr", "html", "iframe", "legend", "li", "link", "main", "menu",
    "menuitem", "nav", "noframes", "ol", "optgroup", "option", "p", "param", "search", "section",
    "summary", "table", "tbody", "td", "tfoot", "th", "thead", "title", "tr", "track", "ul"]

/-- Whether a block tag stands after the angle. -/
def startsBlockTag (text : List Char) : Bool :=
  let text := skipOne '/' text
  let name := String.ofList ((text.takeWhile Text.isAsciiAlphanumeric).map Char.toLower)
  blockTags.contains name &&
    match text.dropWhile Text.isAsciiAlphanumeric with
    | [] => true
    | '/' :: '>' :: _ => true
    | c :: _ => c = ' ' || c = '\t' || c = '>' || isLineEnd c

/-- Whether a complete tag stands alone on the line. -/
def isLoneTag (text : List Char) : Bool :=
  match tag? none text with
  | some (_, rest) => isBlankLine rest
  | none => false

end Folio.Markdown.Html

import Folio.Markdown.Autolink
import Folio.Markdown.Emphasis
import Folio.Markdown.Html
import Folio.Markdown.Outline
import Folio.Text.Blank
/-!
# Reading prose

Prose is read from left to right. Code, HTML and addresses in angles are taken as they come, so no
mark inside them counts. An opening bracket is put on a stack with what was read before it; the closing
bracket takes it off and makes a link, an image or a footnote reference of what was read since, if a
target follows or a definition has the label, and text if not. Links do not nest, so a link disables
the brackets of links around it. What emphasis marks mean is settled last, for the content of each link
by itself.

The text of a later line begins past the margin.
-/

namespace Folio.Markdown.Prose

/-- An opening bracket: whether it opens an image, whether it may still become a link, what was read
before it, and the source after it. -/
structure Bracket where
  image : Bool
  live : Bool
  before : List Piece
  source : List Char

def Bracket.mark (b : Bracket) : List Event :=
  plain (if b.image then ['!', '['] else ['['])

/-- What has been read, the last piece first; the brackets that are open, the innermost first; and the
closing brackets that end a label without a definition, each by the length of the text after it. -/
structure State where
  pieces : List Piece := []
  brackets : List Bracket := []
  spent : List Nat := []

/-- What the meaning of prose depends on. -/
structure Context where
  gfm : Bool
  references : References
  margin : Margin

def Context.pastMargin (ctx : Context) : NextLine :=
  fun line => some (ctx.margin.pastMargin line)

namespace State

def push (s : State) (content : List Event) : State :=
  { s with pieces := .events content :: s.pieces }

def pushText (s : State) (text : List Char) : State :=
  s.push (plain text)

/-- Gives up all open brackets. -/
def flatten (s : State) : State :=
  { s with
    pieces := s.brackets.foldl (fun inner b => inner ++ .events b.mark :: b.before) s.pieces
    brackets := [] }

def finish (s : State) : List Event :=
  Piece.pair s.flatten.pieces.reverse

end State

/-! ### Code -/

/-- Up to the next run of exactly `n` backticks, and after it. -/
def toFence? (n : Nat) (text : List Char) : Option (List Char × List Char) :=
  let content := text.takeWhile (· ≠ '\x60')
  let rest := text.drop content.length
  if rest.isEmpty then none
  else
    let size := repeated '\x60' rest
    if size = n then some (content, rest.drop size)
    else if _h : (rest.drop size).length < text.length then
      (toFence? n (rest.drop size)).map fun (more, after) =>
        (content ++ rest.take size ++ more, after)
    else none
termination_by text.length
decreasing_by exact _h

/-- Code with each line end as one space, and lines past their margin. -/
def joinLines (margin : Margin) (text : List Char) : List Char :=
  let line := text.takeWhile fun c => !isLineEnd c
  let rest := text.drop line.length
  if rest.isEmpty then line
  else
    let next := margin.pastMargin (afterLine rest)
    if _h : next.length < text.length then line ++ ' ' :: joinLines margin next else line ++ [' ']
termination_by text.length

/-- Drops one space at either end if there is one at both, unless there is nothing else. -/
def trimCode (text : List Char) : List Char :=
  if text.head? = some ' ' && text.getLast? = some ' ' && text.any (· ≠ ' ') then
    (text.drop 1).dropLast
  else text

/-- Code after `n` backticks, and what remains after it. -/
def code? (margin : Margin) (n : Nat) (text : List Char) : Option (Event × List Char) :=
  if n = 0 then none
  else (toFence? n text).map fun (content, after) =>
    (.code (String.ofList (trimCode (joinLines margin content))), after)

/-! ### Emphasis marks -/

def isPunctuation : Option Char → Bool
  | some c => Text.isPunctuation c
  | none => false

/-- Before the text and after it counts as blank. -/
def isBlank : Option Char → Bool
  | some c => Text.isBlank c
  | none => true

/-- Marks that work inside a word. -/
def intraword (mark : Char) (length : Nat) : Bool :=
  mark = '*' || (mark = '~' && 1 < length)

/-- A run of marks between two characters. -/
def markRun (mark : Char) (length : Nat) (before after : Option Char) : Piece :=
  let opens := !isBlank after &&
    ((intraword mark length && !isPunctuation after) || isBlank before || isPunctuation before)
  let closes := !isBlank before &&
    ((intraword mark length && !isPunctuation before) || isBlank after || isPunctuation after
      || (mark = '~' && before = some '~'))
  if mark = '~' && 2 < length || !opens && !closes then .events (plain (List.replicate length mark))
  else .run mark length opens closes

/-! ### Links -/

/-- Blanks around the parts of a link, with at most one line end. -/
def skipSeparator (margin : Margin) (text : List Char) : List Char :=
  let rest := skipBlanks text
  match rest with
  | c :: _ => if isLineEnd c then skipBlanks (margin.pastMargin (afterLine rest)) else rest
  | [] => []

/-- The target in parentheses after a closing bracket, and what remains. -/
def inlineTarget? (ctx : Context) (text : List Char) : Option (String × List Char) := do
  let '(' :: rest := text | none
  let (target, afterTarget) ← destination? maxLinkNesting (skipSeparator ctx.margin rest)
  let rest := skipSeparator ctx.margin afterTarget
  match ((title? ctx.pastMargin rest).map (skipSeparator ctx.margin)).getD rest with
  | ')' :: after => some (unescaped target, after)
  | _ => none

inductive Label where
  | link (label : List Char)
  | footnote (label : List Char)

/-- A label after its opening bracket. The label of a footnote stays on its line. -/
def bracketLabel? (ctx : Context) (text : List Char) : Option (Label × List Char) :=
  let footnote : Option (Label × List Char) :=
    match text with
    | '^' :: rest =>
      if ctx.gfm && rest.head? ≠ some ']' then
        (label? (fun _ => none) rest).map fun (label, after) => (Label.footnote label, after)
      else none
    | _ => none
  footnote.or ((label? ctx.pastMargin text).map fun (label, after) => (Label.link label, after))

/-- Makes a link or an image of what was read since a bracket. -/
def closeAsLink (s : State) (b : Bracket) (outer : List Bracket) (target : String) : State :=
  let content := Piece.pair s.pieces.reverse
  let tag : Tag := if b.image then .image target else .link target
  { s with
    pieces := .events (enclose tag content) :: b.before
    brackets :=
      if b.image then outer else outer.map fun o => { o with live := o.live && o.image } }

/-- Makes text of a bracket and what was read since. -/
def closeAsText (s : State) (b : Bracket) (outer : List Bracket) : State :=
  { s with
    pieces := .events (plain [']']) :: s.pieces ++ .events b.mark :: b.before
    brackets := outer }

/-- Closes a bracket by its own label; `after` is where the text goes on if it is the label of a link.
A reference to a footnote gives up all other brackets. -/
def closeByLabel (ctx : Context) (s : State) (b : Bracket) (outer : List Bracket)
    (rest after : List Char) : State × List Char :=
  let own := (bracketLabel? ctx b.source).filter fun (_, tail) => tail.length = rest.length
  match own with
  | some (.link label, _) =>
    match ctx.references.target? label with
    | some target => (closeAsLink s b outer target, after)
    | none => (closeAsText s b outer, rest)
  | some (.footnote label, _) =>
    if ctx.references.hasFootnote label then
      let mark := if b.image then plain ['!'] else []
      let reference := mark ++ [Event.footnoteReference (String.ofList label)]
      ({ s with pieces := .events reference :: b.before, brackets := outer }.flatten, rest)
    else (closeAsText s b outer, rest)
  | none => (closeAsText s b outer, rest)

/-- A closing bracket, after which the text goes on with `rest`. -/
def closeBracket (ctx : Context) (s : State) (rest : List Char) : State × List Char :=
  match s.brackets with
  | [] => (s.pushText [']'], rest)
  | b :: outer =>
    if !b.live then (closeAsText s b outer, rest)
    else
      match inlineTarget? ctx rest with
      | some (target, after) => (closeAsLink s b outer target, after)
      | none =>
        let byOwnLabel (after : List Char) :=
          if s.spent.contains rest.length then (closeAsText s b outer, rest)
          else closeByLabel ctx s b outer rest after
        match rest with
        | '[' :: ']' :: after => byOwnLabel after
        | '[' :: inner =>
          match bracketLabel? ctx inner with
          | some (.link label, after) =>
            match ctx.references.target? label with
            | some target => (closeAsLink s b outer target, after)
            | none => ({ closeAsText s b outer with spent := after.length :: s.spent }, rest)
          | _ => byOwnLabel rest
        | _ => byOwnLabel rest

/-! ### The text from left to right -/

/-- Marks at which text is interrupted. -/
def isSpecial (c : Char) : Bool :=
  isAsciiBlank c || "\\\x60<![]&*_~".toList.contains c

def readBackticks (ctx : Context) (s : State) (n : Nat) (rest : List Char) : State × List Char :=
  match code? ctx.margin n rest with
  | some (code, after) => (s.push [code], after)
  | none => (s.pushText (List.replicate n '\x60'), rest)

/-- What follows a backslash. Before a line end it is a line break, if there is another line. -/
def readEscape (ctx : Context) (s : State) (rest : List Char) : State × List Char :=
  match rest with
  | [] => (s.pushText ['\\'], [])
  | '\x60' :: _ =>
    let n := repeated '\x60' rest
    match code? ctx.margin (n - 1) (rest.drop n) with
    | some (code, after) => ((s.pushText ['\x60']).push [code], after)
    | none => (s.pushText (List.replicate n '\x60'), rest.drop n)
  | c :: after =>
    if Text.isAsciiPunctuation c then (s.pushText [c], after)
    else if isLineEnd c && !(afterLine rest).isEmpty then
      (s.push [.hardBreak], ctx.margin.continueLine (afterLine rest))
    else (s.pushText ['\\'], rest)

/-- What follows an opening angle. -/
def readAngle (ctx : Context) (s : State) (rest : List Char) : State × List Char :=
  if rest.head? = some '\\' then (s.pushText ['<'], rest)
  else
    match autolink? rest with
    | some (target, after) =>
      (s.push (enclose (.link (String.ofList target)) (plain target)), after)
    | none =>
      match Html.markup? ('<' :: rest) with
      | some after => (s.push [.inlineHtml (String.ofList (consumed ('<' :: rest) after))], after)
      | none =>
        match Html.tag? (some ctx.margin.pastMargin) ('<' :: rest) with
        | some (tag, after) => (s.push [.inlineHtml (String.ofList tag)], after)
        | none => (s.pushText ['<'], rest)

/-- Blanks, which are dropped at the end of a line; two or more there break it. -/
def readBlanks (ctx : Context) (s : State) (text : List Char) : State × List Char :=
  let blanks := text.takeWhile isLineBlank
  match text.drop blanks.length with
  | [] => (s, [])
  | c :: rest =>
    if isLineEnd c then
      match afterLine (c :: rest) with
      | [] => (s, [])
      | next =>
        (s.push [if 2 ≤ blanks.length then .hardBreak else .softBreak],
          ctx.margin.continueLine next)
    else (s.pushText blanks, c :: rest)

/-- One piece of prose, and the text after it; `before` is the character before the text. -/
def step (ctx : Context) (s : State) (before : Option Char) (text : List Char) :
    State × List Char :=
  match text with
  | [] => (s, [])
  | '\\' :: rest => readEscape ctx s rest
  | '\x60' :: _ =>
    let n := repeated '\x60' text
    readBackticks ctx s n (text.drop n)
  | '<' :: rest => readAngle ctx s rest
  | '!' :: '[' :: rest =>
    ({ s with pieces := [], brackets := ⟨true, true, s.pieces, rest⟩ :: s.brackets }, rest)
  | '[' :: rest =>
    ({ s with pieces := [], brackets := ⟨false, true, s.pieces, rest⟩ :: s.brackets }, rest)
  | ']' :: rest => closeBracket ctx s rest
  | '&' :: rest =>
    match characterReference? text with
    | some (value, after) => (s.pushText value, after)
    | none => (s.pushText ['&'], rest)
  | c :: rest =>
    if c = '*' || c = '_' || (c = '~' && ctx.gfm) then
      let n := repeated c text
      let after := text.drop n
      ({ s with pieces := markRun c n before after.head? :: s.pieces }, after)
    else if isAsciiBlank c then readBlanks ctx s text
    else
      let plain := c :: rest.takeWhile fun d => !isSpecial d
      (s.pushText plain, text.drop plain.length)

def readFrom (ctx : Context) (s : State) (before : Option Char) (text : List Char) : State :=
  if text.isEmpty then s
  else
    let (next, rest) := step ctx s before text
    if _h : rest.length < text.length then readFrom ctx next (consumed text rest).getLast? rest
    else next
termination_by text.length

/-- The events of prose. -/
def events (gfm : Bool) (references : References) (prose : Prose) : List Event :=
  (readFrom ⟨gfm, references, prose.margin⟩ {} none prose.source).finish

end Folio.Markdown.Prose

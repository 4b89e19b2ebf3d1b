import Folio.Text.Blank
/-!
# Leading metadata

A text may open with a block of metadata between two fences. The opening fence is a first line of
three dashes and nothing else; the closing fence is the first later line that is three dashes up to
trailing blanks. Removing the block removes both fences and the line ends that follow. A text without
a closing fence has no such block and is left alone.
-/

namespace Folio.Frontmatter

def fence : List Char := ['-', '-', '-']

/-- The text after the opening fence. -/
def afterOpening? : List Char → Option (List Char)
  | '-' :: '-' :: '-' :: '\n' :: rest => some rest
  | '-' :: '-' :: '-' :: '\r' :: '\n' :: rest => some rest
  | _ => none

/-- The first line, without its end. -/
def firstLine (text : List Char) : List Char :=
  text.takeWhile (· != '\n')

/-- The text after the first line end. -/
def afterLine (text : List Char) : List Char :=
  (text.dropWhile (· != '\n')).drop 1

theorem afterLine_length_lt (c : Char) (rest : List Char) :
    (afterLine (c :: rest)).length < (c :: rest).length := by
  have h := (List.dropWhile_suffix (l := c :: rest) (· != '\n')).length_le
  simp only [afterLine, List.length_drop, List.length_cons] at h ⊢
  omega

/-- The text after the first closing fence. -/
def afterClosing? : List Char → Option (List Char)
  | [] => none
  | c :: rest =>
    if Text.trimEnd (firstLine (c :: rest)) = fence then some (afterLine (c :: rest))
    else afterClosing? (afterLine (c :: rest))
termination_by text => text.length
decreasing_by exact afterLine_length_lt c rest

def isLineEnd (c : Char) : Bool :=
  c = '\r' || c = '\n'

/-- The text without its leading block of metadata. -/
def strip (text : List Char) : List Char :=
  match (afterOpening? text).bind afterClosing? with
  | some rest => rest.dropWhile isLineEnd
  | none => text

end Folio.Frontmatter

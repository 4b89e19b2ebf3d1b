import Folio.Event
/-!
# Pairing emphasis marks

Runs of `*`, `_` and `~` are paired in one pass from left to right. Those that may open are kept as
openers, each with the content after it; a run that may close takes the nearest opener of its mark
that it can pair with, and openers between the two remain text. A pair uses as many marks as both
have, the inner ones first: two make strong emphasis, one makes emphasis. Tildes strike text through,
and a pair of them has runs of one length.

Two runs of which one may both open and close do not pair if their lengths add up to a multiple of
three, unless both are multiples of three. The lengths are those of the runs as they are written.

A run of tildes that finds no opener hides the openers before it from later tildes.
-/

namespace Folio.Markdown

/-- Content that is read, or a run of marks that may open or close emphasis. -/
inductive Piece where
  | events (content : List Event)
  | run (mark : Char) (length : Nat) (opens closes : Bool)

def plain (text : List Char) : List Event :=
  if text.isEmpty then [] else [.text (String.ofList text)]

def enclose (tag : Tag) (content : List Event) : List Event :=
  .start tag :: content ++ [.stop]

namespace Emphasis

/-- A run that may open, as far as it is not used, and the content after it. -/
structure Opener where
  mark : Char
  length : Nat
  left : Nat
  both : Bool
  content : List Event := []

/-- The content before the first opener, and the openers, the last one first. Tildes do not look at the
first `hidden` of them. -/
structure State where
  before : List Event := []
  openers : List Opener := []
  hidden : Nat := 0

def State.push (s : State) (content : List Event) : State :=
  match s.openers with
  | [] => { s with before := s.before ++ content }
  | top :: outer => { s with openers := { top with content := top.content ++ content } :: outer }

/-- An opener that has found no partner is text. -/
def Opener.flatten (o : Opener) : List Event :=
  plain (List.replicate o.left o.mark) ++ o.content

def flattenAll (openers : List Opener) : List Event :=
  openers.reverse.flatMap Opener.flatten

def Opener.pairs (o : Opener) (mark : Char) (length : Nat) (both : Bool) : Bool :=
  o.mark = mark
    && (mark ≠ '~' || o.length = length)
    && ((!both && !o.both) || (length + o.length) % 3 ≠ 0 || length % 3 = 0)

/-- Content inside `n` pairs of marks. -/
def wrap (mark : Char) : Nat → List Event → List Event
  | 0, content => content
  | 1, content => enclose (if mark = '~' then .strikethrough else .emphasis) content
  | n + 2, content => wrap mark n (enclose (if mark = '~' then .strikethrough else .strong) content)

/-- Closes with the last opener that `length` marks pair with, of which `left` are to be used. The
answer is how many are left. -/
def closeRun (mark : Char) (length : Nat) (both : Bool) (s : State) : Nat → State × Nat
  | 0 => (s, 0)
  | left + 1 =>
    let hidden := if mark = '~' then s.hidden else 0
    let visible := s.openers.take (s.openers.length - hidden)
    let between := visible.takeWhile fun o => !o.pairs mark length both
    match s.openers.drop between.length with
    | opener :: outer =>
      if between.length = visible.length then
        (if mark = '~' then { s with hidden := s.openers.length } else s, left + 1)
      else
        let used := min (left + 1) opener.left
        let content := wrap mark used (opener.content ++ flattenAll between)
        let outside : State := { s with openers := outer, hidden := min s.hidden outer.length }
        let next :=
          if used < opener.left then
            { outside with
              openers := { opener with left := opener.left - used, content := content } :: outer }
          else outside.push content
        closeRun mark length both next (left - (used - 1))
    | [] => (if mark = '~' then { s with hidden := s.openers.length } else s, left + 1)
termination_by left => left

def State.add (s : State) : Piece → State
  | .events content => s.push content
  | .run mark length opens closes =>
    let both := opens && closes
    let (s, left) := if closes then closeRun mark length both s length else (s, length)
    if left = 0 then s
    else if opens then { s with openers := ⟨mark, length, left, both, []⟩ :: s.openers }
    else s.push (plain (List.replicate left mark))

def State.finish (s : State) : List Event :=
  s.before ++ flattenAll s.openers

end Emphasis

/-- The events of content whose emphasis is paired. -/
def Piece.pair (pieces : List Piece) : List Event :=
  (pieces.foldl Emphasis.State.add {}).finish

end Folio.Markdown

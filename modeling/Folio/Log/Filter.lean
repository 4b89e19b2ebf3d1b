import Folio.Log
import Folio.Text.Blank
import Folio.Text.Search
/-!
# Which log entries are shown

A filter is written as directives with commas between them. A directive is a level, a target, or a
target with a level; the one with the longest target that an entry's target begins with decides about
the entry. A text after a slash has to occur in the entry's message too.

A part that is no directive is passed over with a warning. A filter without directives shows errors.
-/

namespace Folio

/-- Shows what is at most as talkative as `level`. -/
structure LogDirective where
  target : List Char
  level : Nat
deriving DecidableEq, Repr

structure LogFilter where
  directives : List LogDirective := []
  pattern : List Char := []
deriving DecidableEq, Repr

namespace LogFilter

def allLevels : List LogLevel :=
  [.error, .warn, .info, .debug, .trace]

/-- The rank of a level by its name in any case; `off` is below all levels. -/
def rank? (name : List Char) : Option Nat :=
  let upper := String.ofList (name.map Char.toUpper)
  if upper = "OFF" then some 0
  else (allLevels.find? fun level => level.label = upper).map LogLevel.rank

def maxRank : Nat := LogLevel.trace.rank

/-- What one part of a filter says, or the warning about it. -/
def directive (part : List Char) : Except String LogDirective :=
  let invalid (text : List Char) : Except String LogDirective :=
    .error ("warning: invalid logging spec '" ++ String.ofList text ++ "', ignoring it")
  match part.splitOn '=' with
  | [name] =>
    match rank? name with
    | some level => .ok ⟨[], level⟩
    | none => .ok ⟨name, maxRank⟩
  | [name, value] =>
    let value := Text.trim value
    if value.isEmpty then .ok ⟨name, maxRank⟩
    else
      match rank? value with
      | some level => .ok ⟨name, level⟩
      | none => invalid value
  | _ => invalid part

/-- Adds a directive; one for the same target is replaced. -/
def add (filter : LogFilter) (d : LogDirective) : LogFilter :=
  if filter.directives.any (·.target = d.target) then
    { filter with directives := filter.directives.map fun e => if e.target = d.target then d else e }
  else { filter with directives := filter.directives ++ [d] }

def addParts (filter : LogFilter) : List (List Char) → LogFilter × List String
  | [] => (filter, [])
  | part :: rest =>
    let part := Text.trim part
    if part.isEmpty then addParts filter rest
    else
      match directive part with
      | .ok d => addParts (filter.add d) rest
      | .error warning =>
        let (filter, warnings) := addParts filter rest
        (filter, warning :: warnings)

def orErrors (filter : LogFilter) : LogFilter :=
  if filter.directives.isEmpty then { filter with directives := [⟨[], LogLevel.error.rank⟩] }
  else filter

/-- The filter that a text writes, and the warnings about it. -/
def ofText (text : String) : LogFilter × List String :=
  let (filter, warnings) :=
    match text.toList.splitOn '/' with
    | [directives] => addParts {} (directives.splitOn ',')
    | [directives, pattern] => addParts { pattern } (directives.splitOn ',')
    | _ =>
      ({}, ["warning: invalid logging spec '" ++ text ++ "' (too many '/'s), ignoring it"])
  (filter.orErrors, warnings)

/-- The directive that decides about a target. Of two with targets of one length, both of which the
target begins with, there is only one. -/
def decisive? (filter : LogFilter) (target : List Char) : Option LogDirective :=
  (filter.directives.filter (·.target.isPrefixOf target)).foldl
    (fun best d =>
      match best with
      | some b => if b.target.length ≤ d.target.length then some d else some b
      | none => some d)
    none

def shows (filter : LogFilter) (entry : LogEntry) : Bool :=
  (match filter.decisive? entry.target.toList with
    | some d => entry.level.rank ≤ d.level
    | none => false)
  && Text.occursIn filter.pattern entry.message.toList

end LogFilter

/-- An entry as a line, with its level padded to five characters. Further lines of its message are
indented. -/
def LogEntry.line (entry : LogEntry) : String :=
  let label := entry.level.label
  let padding := String.ofList (List.replicate (5 - label.length) ' ')
  let message := entry.message.toList.flatMap fun c =>
    if c = '\n' then "\n    ".toList else [c]
  "[" ++ label ++ padding ++ " " ++ entry.target ++ "] " ++ String.ofList message

end Folio

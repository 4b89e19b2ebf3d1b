import Folio.Toml.Quotation
import Folio.Toml.Scalar
/-!
# Reading TOML

A document is a sequence of lines, each a header, a key with its value, or nothing; a comment may end
it. A header says to which table the keys below it belong. Inside brackets a value may go on over
lines.

A document is read as a whole or not at all.
-/

namespace Folio.Toml

def skipSpace (text : List Char) : List Char :=
  text.dropWhile Text.isSpaceOrTab

/-- After a comment, if there is one. -/
def comment? (text : List Char) : Option (List Char) :=
  match text with
  | '#' :: rest =>
    let after := rest.dropWhile fun c => !isControl c
    if after.isEmpty || (newline? after).isSome then some after else none
  | _ => some text

/-- After the rest of a line that says nothing more. -/
def lineEnd? (text : List Char) : Option (List Char) := do
  let rest ← comment? (skipSpace text)
  if rest.isEmpty then some [] else newline? rest

/-- After blanks, comments and line ends. -/
def skipLines? : Nat → List Char → Option (List Char)
  | 0, _ => none
  | fuel + 1, text => do
    let rest ← comment? (skipSpace text)
    match newline? rest with
    | some rest => skipLines? fuel rest
    | none => some rest

def isBareKeyChar (c : Char) : Bool :=
  Text.isAsciiAlphanumeric c || c = '_' || c = '-'

def simpleKey? (text : List Char) : Option (String × List Char) :=
  let bare := text.takeWhile isBareKeyChar
  if bare.isEmpty then (lineQuotation? text).map fun (key, rest) => (String.ofList key, rest)
  else some (String.ofList bare, text.drop bare.length)

/-- Keys with dots between them, and what remains after the blanks that follow. -/
def key? : Nat → List Char → Option (List String × List Char)
  | 0, _ => none
  | fuel + 1, text => do
    let (first, rest) ← simpleKey? (skipSpace text)
    match skipSpace rest with
    | '.' :: rest =>
      let (more, rest) ← key? fuel rest
      some (first :: more, rest)
    | rest => some ([first], rest)

/-- The characters of a scalar. A blank may stand between a date and a time. -/
def scalarText (text : List Char) : List Char :=
  let first := text.takeWhile isScalarChar
  match text.drop first.length with
  | ' ' :: rest =>
    let second := rest.takeWhile isScalarChar
    if date? first = some [] && (time? second).isSome then first ++ ' ' :: second else first
  | _ => first

mutual

def value? : Nat → List Char → Option (Value × List Char)
  | 0, _ => none
  | fuel + 1, text =>
    match text with
    | '[' :: rest => (array? fuel rest).map fun (items, rest) => (.array items, rest)
    | '{' :: rest =>
      (inlineTable? fuel [] rest).map fun (fields, rest) =>
        (.table (Item.fieldValues fields), rest)
    | _ =>
      match quotation? text with
      | some (value, rest) => some (.text (String.ofList value), rest)
      | none =>
        let written := scalarText text
        (scalar? written).map (·, text.drop written.length)

/-- Items up to the closing bracket. -/
def array? : Nat → List Char → Option (List Value × List Char)
  | 0, _ => none
  | fuel + 1, text => do
    let text ← skipLines? (text.length + 1) text
    match text with
    | ']' :: rest => some ([], rest)
    | _ =>
      let (item, rest) ← value? fuel text
      match ← skipLines? (rest.length + 1) rest with
      | ',' :: rest => (array? fuel rest).map fun (items, rest) => (item :: items, rest)
      | ']' :: rest => some ([item], rest)
      | _ => none

/-- Keys and values up to the closing brace, added to those before. -/
def inlineTable? : Nat → Fields → List Char → Option (Fields × List Char)
  | 0, _, _ => none
  | fuel + 1, fields, text => do
    let text ← skipLines? (text.length + 1) text
    match text with
    | '}' :: rest => some (fields, rest)
    | _ =>
      let (path, rest) ← key? (text.length + 1) text
      match rest with
      | '=' :: rest =>
        let (value, rest) ← value? fuel (skipSpace rest)
        let fields ← fields.addValue? value path
        match ← skipLines? (rest.length + 1) rest with
        | ',' :: rest => inlineTable? fuel fields rest
        | '}' :: rest => some (fields, rest)
        | _ => none
      | _ => none

end

/-- What has been read of a document: its fields, and the path of the table that is being filled. -/
structure State where
  fields : Fields := []
  header : List String := []

/-- A header up to its closing bracket; `marks` are the brackets that close it. -/
def header? (marks text : List Char) : Option (List String × List Char) := do
  let (path, rest) ← key? (text.length + 1) text
  if marks.isPrefixOf rest then some (path, ← lineEnd? (rest.drop marks.length)) else none

/-- One line, or more if a value goes on. -/
def State.readLine? (s : State) (text : List Char) : Option (State × List Char) :=
  match skipSpace text with
  | '[' :: '[' :: rest => do
    let (path, rest) ← header? [']', ']'] rest
    let fields ← s.fields.addHeader? Fields.defineElement path
    some (⟨fields, path⟩, rest)
  | '[' :: rest => do
    let (path, rest) ← header? [']'] rest
    let fields ← s.fields.addHeader? Fields.defineTable path
    some (⟨fields, path⟩, rest)
  | line =>
    match lineEnd? line with
    | some rest => some (s, rest)
    | none => do
      let (path, rest) ← key? (line.length + 1) line
      match rest with
      | '=' :: rest =>
        let rest := skipSpace rest
        let (value, rest) ← value? (rest.length + 1) rest
        let fields ← s.fields.within? (Fields.addValue? value path) s.header
        some (⟨fields, s.header⟩, ← lineEnd? rest)
      | _ => none

def State.readAll? (s : State) (text : List Char) : Option State :=
  if text.isEmpty then some s
  else
    match s.readLine? text with
    | none => none
    | some (next, rest) =>
      if _h : rest.length < text.length then readAll? next rest else none
termination_by text.length

/-- A mark that may stand before the text says nothing. -/
def dropByteOrderMark : List Char → List Char
  | '\ufeff' :: rest => rest
  | text => text

/-- The table that a document writes. -/
def document? (text : String) : Option (List (String × Value)) :=
  (State.readAll? {} (dropByteOrderMark text.toList)).map fun s => Item.fieldValues s.fields

end Folio.Toml

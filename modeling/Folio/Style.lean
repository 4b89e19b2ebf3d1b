/-!
# Styles

A style gives the visual attributes of a kind of text; an attribute without a value is inherited. The
table has one entry for each of nine names. The standard table is fixed: headings are larger and bold,
code has a background, links are blue and underlined, quotes are grey and italic.
-/

namespace Folio

/-- Space around a node, in points. -/
structure Margin where
  left : Float
  top : Float
  right : Float
  bottom : Float
deriving DecidableEq, Repr

inductive StyleName where
  | header
  | subheader
  | h3
  | body
  | code
  | inlineCode
  | link
  | blockquote
  | list
deriving DecidableEq, Repr

namespace StyleName

def all : List StyleName :=
  [header, subheader, h3, body, code, inlineCode, link, blockquote, list]

/-- The written name. -/
def label : StyleName → String
  | header => "header"
  | subheader => "subheader"
  | h3 => "h3"
  | body => "body"
  | code => "code"
  | inlineCode => "inlineCode"
  | link => "link"
  | blockquote => "blockquote"
  | list => "list"

def ofLabel? (label : String) : Option StyleName :=
  all.find? fun name => name.label == label

/-- The style of a heading; from depth three on there is one for all. -/
def ofDepth : Nat → StyleName
  | 0 | 1 => header
  | 2 => subheader
  | _ => h3

end StyleName

inductive Decoration where
  | underline
  | lineThrough
deriving DecidableEq, Repr

def Decoration.label : Decoration → String
  | underline => "underline"
  | lineThrough => "lineThrough"

def Decoration.ofLabel? (label : String) : Option Decoration :=
  [underline, lineThrough].find? fun decoration => decoration.label == label

structure Style where
  font : Option String := none
  fontSize : Option Float := none
  lineHeight : Option Float := none
  bold : Bool := false
  italics : Bool := false
  color : Option String := none
  background : Option String := none
  decoration : Option Decoration := none
  preserveLeadingSpaces : Bool := false
  margin : Option Margin := none
deriving DecidableEq, Repr

structure StyleTable where
  header : Style
  subheader : Style
  h3 : Style
  body : Style
  code : Style
  inlineCode : Style
  link : Style
  blockquote : Style
  list : Style
deriving DecidableEq, Repr

def StyleTable.get (table : StyleTable) : StyleName → Style
  | .header => table.header
  | .subheader => table.subheader
  | .h3 => table.h3
  | .body => table.body
  | .code => table.code
  | .inlineCode => table.inlineCode
  | .link => table.link
  | .blockquote => table.blockquote
  | .list => table.list

def StyleTable.set (table : StyleTable) (name : StyleName) (style : Style) : StyleTable :=
  match name with
  | .header => { table with header := style }
  | .subheader => { table with subheader := style }
  | .h3 => { table with h3 := style }
  | .body => { table with body := style }
  | .code => { table with code := style }
  | .inlineCode => { table with inlineCode := style }
  | .link => { table with link := style }
  | .blockquote => { table with blockquote := style }
  | .list => { table with list := style }

/-- The family of every style that names no other. -/
def defaultFont : String := "Roboto"

def codeBackground : String := "#f0f0f0"

def standardStyles : StyleTable where
  header := { fontSize := some 20, bold := true }
  subheader := { fontSize := some 16, bold := true }
  h3 := { fontSize := some 14, bold := true }
  body := { fontSize := some 10, lineHeight := some 1.4 }
  code := {
    font := some defaultFont
    fontSize := some 9
    background := some codeBackground
    preserveLeadingSpaces := true
    margin := some ⟨0, 5, 0, 5⟩ }
  inlineCode := { font := some defaultFont, fontSize := some 9, background := some codeBackground }
  link := { color := some "blue", decoration := some .underline }
  blockquote := { italics := true, color := some "grey", margin := some ⟨20, 5, 0, 5⟩ }
  list := { margin := some ⟨0, 0, 0, 5⟩ }

end Folio

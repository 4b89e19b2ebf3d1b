import Folio.Document
import Folio.Json.Basic
/-!
# Documents as data

The data form of a document. A margin is an array of four numbers, a node is told by its `kind`, a
run shows only the marks that are on and the link and style that are set, a style only the attributes
that have a value.
-/

namespace Folio

open Json (present)

def Margin.toJson (margin : Margin) : Json :=
  .array [.double margin.left, .double margin.top, .double margin.right, .double margin.bottom]

def Line.toJson (line : Line) : Json :=
  .object [("x1", .double line.x1), ("y1", .double line.y1),
    ("x2", .double line.x2), ("y2", .double line.y2)]

def StyleName.toJson (name : StyleName) : Json :=
  .text name.label

/-- A mark that is off is left out. -/
def markMember (on : Bool) : Option Json :=
  if on then some (.bool true) else none

def Run.toJson (run : Run) : Json :=
  .object (present [
    ("text", some (.text run.text)),
    ("bold", markMember run.bold),
    ("italic", markMember run.italic),
    ("strikethrough", markMember run.strikethrough),
    ("link", run.link.map .text),
    ("style", run.style.map StyleName.toJson)])

def Node.toJson : Node → Json
  | textBlock runs style margin =>
    .object [("kind", .text "textBlock"), ("runs", .array (runs.map Run.toJson)),
      ("style", style.toJson), ("margin", margin.toJson)]
  | listBlock ordered items margin =>
    .object [("kind", .text "listBlock"), ("ordered", .bool ordered),
      ("items", .array (items.map fun item => .array (item.map Run.toJson))),
      ("margin", margin.toJson)]
  | ruleBlock line lineWidth color margin =>
    .object [("kind", .text "ruleBlock"), ("line", line.toJson),
      ("lineWidth", .double lineWidth), ("color", .text color), ("margin", margin.toJson)]

def Style.toJson (style : Style) : Json :=
  .object (present [
    ("font", style.font.map .text),
    ("fontSize", style.fontSize.map .double),
    ("lineHeight", style.lineHeight.map .double),
    ("bold", some (.bool style.bold)),
    ("italics", some (.bool style.italics)),
    ("color", style.color.map .text),
    ("background", style.background.map .text),
    ("decoration", style.decoration.map fun d => .text d.label),
    ("preserveLeadingSpaces", some (.bool style.preserveLeadingSpaces)),
    ("margin", style.margin.map Margin.toJson)])

def StyleTable.toJson (table : StyleTable) : Json :=
  .object (StyleName.all.map fun name => (name.label, (table.get name).toJson))

def Document.toJson (document : Document) : Json :=
  .object [("content", .array (document.content.map Node.toJson)),
    ("styles", document.styles.toJson), ("defaultFont", .text document.defaultFont)]

end Folio

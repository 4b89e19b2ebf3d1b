import Folio.Decimal.Written
import Folio.Document
import Folio.Document.OfBlocks
import Folio.Typst.Literal
/-!
# The markup of a document

The markup is a sequence of pieces: code, which this file writes, and literals, which hold the texts,
link targets, fonts and colours of the document. Rendering the pieces quotes every literal, so no text
of a document can end up as code.

Every node is a padded block of its own. A text block and a list set the attributes of their style for
what they hold; each run is then one expression, a call of `text` wrapped in `strike`, `underline`,
`highlight` and `link` as far as they apply, in this order from the inside out.
-/

namespace Folio.Typst

inductive Piece where
  | code (text : String)
  | literal (text : String)
deriving DecidableEq, Repr

def Piece.render : Piece → List Char
  | code text => text.toList
  | .literal text => Typst.literal text.toList

def render (pieces : List Piece) : List Char :=
  pieces.flatMap Piece.render

/-- Used when the default font of a document is not installed. -/
def fallbackFonts : List String := ["Libertinus Serif", "New Computer Modern"]

def pageMargin : Float := 40

def baseFontSize : Float := 12

/-- The leading of a paragraph in ems, which a line height scales. -/
def baseLeading : Float := 0.65

/-- A length in points. -/
def points (x : Float) : Piece :=
  .code (Decimal.plainString x ++ "pt")

def commaSeparated : List (List Piece) → List Piece
  | [] => []
  | [item] => item
  | item :: rest => item ++ .code ", " :: commaSeparated rest

def namedColors : List String :=
  ["black", "white", "blue", "red", "green", "yellow", "orange", "purple"]

/-- A colour by its name where the markup has one, else by its text. -/
def color (text : String) : List Piece :=
  if text = "grey" || text = "gray" then [.code "gray"]
  else if namedColors.contains text then [.code text]
  else [.code "rgb(", .literal text, .code ")"]

def padding (margin : Margin) : List Piece :=
  [.code "left: ", points margin.left, .code ", top: ", points margin.top,
    .code ", right: ", points margin.right, .code ", bottom: ", points margin.bottom]

/-- The arguments that set a text's look. -/
structure TextArguments where
  font : Option String := none
  size : Option Float := none
  bold : Bool := false
  italic : Bool := false
  fill : Option String := none
deriving DecidableEq, Repr

def TextArguments.ofStyle (style : Style) : TextArguments where
  font := style.font
  size := style.fontSize
  bold := style.bold
  italic := style.italics
  fill := style.color

def TextArguments.pieces (arguments : TextArguments) : List (List Piece) :=
  (arguments.font.map fun font => [.code "font: ", .literal font]).toList ++
  (arguments.size.map fun size => [.code "size: ", points size]).toList ++
  (if arguments.bold then [[.code "weight: ", .literal "bold"]] else []) ++
  (if arguments.italic then [[.code "style: ", .literal "italic"]] else []) ++
  (arguments.fill.map fun fill => .code "fill: " :: color fill).toList

/-- The call of a function whose last argument is an expression. -/
def wrap (function : String) (arguments expression : List Piece) : List Piece :=
  .code (function ++ "(") :: arguments ++ expression ++ [.code ")"]

/-- The look of a run: that of its style, with the marks of the run turned on. -/
def runArguments (style : Option Style) (run : Run) : TextArguments :=
  let base := (style.map TextArguments.ofStyle).getD {}
  { base with bold := base.bold || run.bold, italic := base.italic || run.italic }

def runExpression (styles : StyleTable) (run : Run) : List Piece :=
  let style := run.style.map styles.get
  let decoration := style.bind Style.decoration
  let plain := wrap "text" (commaSeparated ((runArguments style run).pieces ++ [[.literal run.text]])) []
  let struck :=
    if run.strikethrough || decoration = some .lineThrough then wrap "strike" [] plain else plain
  let underlined := if decoration = some .underline then wrap "underline" [] struck else struck
  let highlighted := match style.bind Style.background with
    | some background =>
      wrap "highlight" (.code "fill: " :: color background ++ [.code ", "]) underlined
    | none => underlined
  match run.link with
  | some href =>
    if href = "" then highlighted else wrap "link" [.literal href, .code ", "] highlighted
  | none => highlighted

def runLine (styles : StyleTable) (run : Run) : List Piece :=
  .code "  " :: runExpression styles run ++ [.code "\n"]

/-- A sequence of runs as one code block. -/
def runBlock (styles : StyleTable) (runs : List Run) : List Piece :=
  .code "#\x7b\n" :: runs.flatMap (runLine styles) ++ [.code "\x7d"]

/-- The leading that a line height asks for. -/
def leading (lineHeight : Float) : String :=
  String.ofList (Decimal.fixed 2 (baseLeading * lineHeight))

/-- The rules that a block's style sets for the block. -/
def blockRules (style : Style) : List Piece :=
  let arguments := (TextArguments.ofStyle style).pieces
  (if arguments.isEmpty then []
    else .code "#set text(" :: commaSeparated arguments ++ [.code ")\n"]) ++
  match style.lineHeight with
  | some lineHeight => [.code ("#set par(leading: " ++ leading lineHeight ++ "em)\n")]
  | none => []

def listItem (styles : StyleTable) (runs : List Run) : List Piece :=
  .code "  pad(" :: padding listItemMargin ++ .code ")[" :: runBlock styles runs ++ [.code "],\n"]

def nodeMarkup (styles : StyleTable) : Node → List Piece
  | .textBlock runs style margin =>
    .code "#pad(" :: padding margin ++ .code ")[\n" :: blockRules (styles.get style) ++
      runBlock styles runs ++ [.code "]\n\n"]
  | .listBlock ordered items margin =>
    .code "#pad(" :: padding margin ++ .code ")[\n" :: blockRules (styles.get .list) ++
      .code (if ordered then "#enum(\n" else "#list(\n") :: items.flatMap (listItem styles) ++
      [.code ")\n]\n\n"]
  | .ruleBlock line lineWidth lineColor margin =>
    .code "#pad(" :: padding margin ++ .code ")[#line(start: (" :: points line.x1 ::
      .code ", " :: points line.y1 :: .code "), end: (" :: points line.x2 :: .code ", " ::
      points line.y2 :: .code "), stroke: " :: points lineWidth :: .code " + " ::
      color lineColor ++ [.code ")]\n\n"]

/-- The page, the fonts and the spacing between blocks. -/
def preamble (font : String) : List Piece :=
  [.code "#set page(paper: ", .literal "a4", .code ", margin: ", points pageMargin,
    .code ")\n#set text(font: ("] ++
  commaSeparated ((font :: fallbackFonts).map fun name => [.literal name]) ++
  [.code "), size: ", points baseFontSize,
    .code ")\n#set par(spacing: 0pt)\n#set block(spacing: 0pt)\n\n"]

def pieces (document : Document) : List Piece :=
  preamble document.defaultFont ++ document.content.flatMap (nodeMarkup document.styles)

/-- The markup text of a document. -/
def markup (document : Document) : String :=
  String.ofList (render (pieces document))

end Folio.Typst

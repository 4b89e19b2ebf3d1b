import Folio.Proofs.Typst.Layers
/-!
# What the markup shows of a document

Two documents may differ and still have the same markup: a run may be bold by its own mark or by its
style, a colour may be `grey` or `gray`, a number may have two values with one printed form. What is
visible of a document is what remains when such differences are taken out. Numbers and colours are as
they are printed, and marks and attributes are the effective ones.
-/

namespace Folio.Typst

def colorText (text : String) : List Char :=
  render (color text)

/-- The attributes of a text as they are printed. -/
structure Look where
  font : Option String
  size : Option (List Char)
  bold : Bool
  italic : Bool
  fill : Option (List Char)
deriving DecidableEq, Repr

def TextArguments.look (arguments : TextArguments) : Look where
  font := arguments.font
  size := arguments.size.map Decimal.plain
  bold := arguments.bold
  italic := arguments.italic
  fill := arguments.fill.map colorText

end Folio.Typst

namespace Folio

/-- A run with the marks and attributes that are in effect, wherever they come from. -/
structure VisibleRun where
  text : String
  look : Typst.Look
  struck : Bool
  underlined : Bool
  background : Option (List Char)
  target : Option String
deriving DecidableEq, Repr

def Run.visible (styles : StyleTable) (run : Run) : VisibleRun :=
  let style := run.style.map styles.get
  { text := run.text
    look := (Typst.runArguments style run).look
    struck := run.isStruck style
    underlined := Style.isUnderlined style
    background := (style.bind Style.background).map Typst.colorText
    target := run.target }

/-- What a style sets for a whole block. -/
structure BlockLook where
  look : Typst.Look
  leading : Option String
deriving DecidableEq, Repr

def Style.visible (style : Style) : BlockLook where
  look := (Typst.TextArguments.ofStyle style).look
  leading := style.lineHeight.map Typst.leading

/-- Left, top, right and bottom. -/
def Margin.printed (margin : Margin) : List (List Char) :=
  [margin.left, margin.top, margin.right, margin.bottom].map Decimal.plain

def Line.printed (line : Line) : List (List Char) :=
  [line.x1, line.y1, line.x2, line.y2].map Decimal.plain

inductive VisibleNode where
  | textBlock (runs : List VisibleRun) (style : BlockLook) (margin : List (List Char))
  | listBlock (ordered : Bool) (items : List (List VisibleRun)) (style : BlockLook)
      (margin : List (List Char))
  | ruleBlock (line : List (List Char)) (lineWidth : List Char) (color : List Char)
      (margin : List (List Char))
deriving DecidableEq, Repr

def Node.visible (styles : StyleTable) : Node → VisibleNode
  | textBlock runs style margin =>
    .textBlock (runs.map (Run.visible styles)) (styles.get style).visible margin.printed
  | listBlock ordered items margin =>
    .listBlock ordered (items.map (List.map (Run.visible styles))) styles.list.visible
      margin.printed
  | ruleBlock line lineWidth color margin =>
    .ruleBlock line.printed (Decimal.plain lineWidth) (Typst.colorText color) margin.printed

end Folio

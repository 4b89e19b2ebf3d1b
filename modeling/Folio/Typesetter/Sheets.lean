import Folio.Decimal.Written
import Folio.Typesetter
import Folio.Typst.Markup
/-!
# Sheets

A typesetter that measures and does not draw. It counts how many A4 pages a document fills, one line
of text for each line of the source and nothing wrapped, and leaves the pages blank. A node goes to the
next page if it does not fit on the one that is being filled. A link whose target is too long is
refused, as typesetters do that check it.
-/

namespace Folio.Sheets

/-- A4, in points. -/
def pageWidth : Float := 595.2755905511812

def pageHeight : Float := 841.8897637795276

/-- What the page margins leave of the height. -/
def usableHeight : Float := pageHeight - 2 * Typst.pageMargin

/-- The longest link target, in bytes. -/
def maxTargetSize : Nat := 8000

def textSize (style : Style) : Float :=
  style.fontSize.getD Typst.baseFontSize

/-- One more than the line ends. -/
def lineCount (runs : List Run) : Nat :=
  1 + (runs.flatMap fun run => run.text.toList).count '\n'

def runsHeight (style : Style) (runs : List Run) : Float :=
  Float.ofNat (lineCount runs) * textSize style

def withMargin (margin : Margin) (height : Float) : Float :=
  margin.top + height + margin.bottom

def nodeHeight (styles : StyleTable) : Node → Float
  | .textBlock runs style margin => withMargin margin (runsHeight (styles.get style) runs)
  | .listBlock _ items margin =>
    withMargin margin (items.foldl (fun height runs =>
      height + withMargin listItemMargin (runsHeight (styles.get .list) runs)) 0)
  | .ruleBlock line _ _ margin => withMargin margin (max line.y1 line.y2)

/-- The pages that heights fill, when `used` of the last page is taken. -/
def countPages (used : Float) : List Float → Nat
  | [] => 1
  | height :: rest =>
    if used + height ≤ usableHeight || used == 0 then countPages (used + height) rest
    else 1 + countPages height rest

def pageCount (document : Document) : Nat :=
  countPages 0 (document.content.map (nodeHeight document.styles))

def hasLongTarget (document : Document) : Bool :=
  document.content.any fun node => node.runs.any fun run =>
    (run.link.map fun target => decide (maxTargetSize < target.utf8ByteSize)).getD false

/-- A blank drawing of a page. -/
def drawing : String :=
  "<svg width=\"" ++ Decimal.plainString pageWidth ++ "pt\" height=\"" ++
    Decimal.plainString pageHeight ++ "pt\"></svg>"

def objectReference (n : Nat) : String :=
  Nat.repr n ++ " 0 R"

/-- The objects of a file: the catalog, the page tree, and the pages. -/
def pdfObjects (pages : Nat) : List String :=
  let numbers := (List.range pages).map (· + 3)
  let box := "[0 0 " ++ Decimal.plainString pageWidth ++ " " ++ Decimal.plainString pageHeight ++ "]"
  ["<< /Type /Catalog /Pages " ++ objectReference 2 ++ " >>",
    "<< /Type /Pages /Count " ++ Nat.repr pages ++ " /Kids [" ++
      " ".intercalate (numbers.map objectReference) ++ "] >>"] ++
  numbers.map fun _ =>
    "<< /Type /Page /Parent " ++ objectReference 2 ++ " /Resources << >> /MediaBox " ++ box ++ " >>"

def pdfHeader : String := "%PDF-1.7\n"

/-- An offset in ten digits. -/
def offsetText (offset : Nat) : String :=
  let digits := Nat.repr offset
  String.ofList (List.replicate (10 - digits.length) '0') ++ digits

/-- The text of numbered objects, and the offset at which each begins. -/
def placeObjects (offset n : Nat) : List String → String × List Nat
  | [] => ("", [])
  | body :: rest =>
    let text := Nat.repr n ++ " 0 obj\n" ++ body ++ "\nendobj\n"
    let (more, offsets) := placeObjects (offset + text.utf8ByteSize) (n + 1) rest
    (text ++ more, offset :: offsets)

/-- A file of blank pages. -/
def pdf (pages : Nat) : String :=
  let objects := pdfObjects pages
  let (body, offsets) := placeObjects pdfHeader.utf8ByteSize 1 objects
  let size := Nat.repr (objects.length + 1)
  let entries := offsets.map fun offset => offsetText offset ++ " 00000 n \n"
  pdfHeader ++ body ++ "xref\n0 " ++ size ++ "\n" ++ offsetText 0 ++ " 65535 f \n" ++
    String.join entries ++ "trailer\n<< /Size " ++ size ++ " /Root " ++ objectReference 1 ++
    " >>\nstartxref\n" ++ Nat.repr (pdfHeader ++ body).utf8ByteSize ++ "\n%%EOF\n"

def compile (document : Document) : Except String Typeset :=
  if hasLongTarget document then .error "URL is too long"
  else
    let count := pageCount document
    .ok {
      pages := List.replicate count ⟨Bytes.ofString drawing, pageWidth, pageHeight⟩
      pdf := .ok (Bytes.ofString (pdf count)) }

def typesetter : Typesetter := ⟨fun _ document => compile document⟩

end Folio.Sheets

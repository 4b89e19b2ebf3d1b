import Folio.Document
import Folio.Error
import Folio.Files
/-!
# Typesetters

A typesetter makes pages of the markup of a document. What it draws is its own matter: here it is
whatever turns a document and the available fonts into drawn pages and a file that holds them all, or
refuses the document.
-/

namespace Folio

/-- The fonts at hand beside those that every typesetter has. -/
structure Fonts where
  files : List Bytes := []
  system : Bool := false

/-- A drawn page, with its size in points. -/
structure Page where
  drawing : Bytes
  width : Float
  height : Float

/-- A document that has been set. Only the file can still fail. -/
structure Typeset where
  pages : List Page
  pdf : Except String Bytes

structure Typesetter where
  compile : Fonts → Document → Except String Typeset

/-- The drawings of all pages, and the size of the first one. -/
structure PageDrawings where
  drawings : List Bytes
  width : Float
  height : Float

/-- The size given where there is no page. -/
def emptyPageSize : Float × Float := (595, 842)

def PageDrawings.ofPages (pages : List Page) : PageDrawings :=
  let (width, height) :=
    match pages with
    | page :: _ => (page.width, page.height)
    | [] => emptyPageSize
  ⟨pages.map (·.drawing), width, height⟩

end Folio

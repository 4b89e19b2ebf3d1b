import Folio.Markdown.Division
import Folio.Markdown.Prose
/-!
# The events of a text

The elements of a text, each with the events of its content between a start and a stop. A paragraph
of a tight item has no events of its own. Events inside prose carry the extent of its paragraph or
heading. Of a table or a block of HTML only the extent is reported.
-/

namespace Folio.Markdown

/-- An element around content. -/
def around (tag : Tag) (span : Span) (content : List Located) : List Located :=
  ⟨.start tag, span⟩ :: content ++ [⟨.stop, span⟩]

def isOrdered (mark : Char) : Bool :=
  mark = '.' || mark = ')'

def Container.tag : Container → Tag
  | .quote => .quote
  | .list mark number _ => .list (if isOrdered mark then some number else none)
  | .item _ => .item
  | .footnote => .footnoteDefinition

def taskEvents (span : Span) (task : Option Bool) : List Located :=
  task.toList.map fun checked => ⟨.taskMarker checked, span⟩

section

variable (gfm : Bool) (references : References)

def proseEvents (span : Span) (task : Option Bool) (prose : Prose) : List Located :=
  taskEvents span task ++ (prose.events gfm references).map (⟨·, span⟩)

mutual

/-- The events of an element; `tight` if it is in an item of a tight list. -/
def Element.events (tight : Bool) : Element → List Located
  | .container kind span children =>
    let within := match kind with
      | .list _ _ isTight => isTight
      | .item _ => tight
      | _ => false
    around kind.tag span (Element.eventsAll within children)
  | .paragraph span checked prose =>
    let content := proseEvents gfm references span checked prose
    if tight then content else around .paragraph span content
  | .heading level span checked prose =>
    around (.heading level) span (proseEvents gfm references span checked prose)
  | .code span text => around .codeBlock span ((plain text).map (⟨·, span⟩))
  | .rule span => [⟨.rule, span⟩]
  | .html span => around .htmlBlock span []
  | .table span => around .table span []
  | .task span checked => [⟨.taskMarker checked, span⟩]

def Element.eventsAll (tight : Bool) : List Element → List Located
  | [] => []
  | e :: rest => e.events tight ++ Element.eventsAll tight rest

end

end

/-- The events of a text. -/
def events (gfm : Bool) (text : List Char) : List Located :=
  let (elements, references) := divide gfm text
  Element.eventsAll gfm references false elements

end Folio.Markdown

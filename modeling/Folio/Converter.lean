import Folio.Block.Reading
import Folio.Config
import Folio.Delivery
import Folio.Typesetter
import Folio.Typst.Markup
/-!
# Conversions

The way from markdown to each of its results: the blocks, the document, its markup, and the pages that
a typesetter makes of it. Each result is built on the one before. A conversion carries the log of what
was done, also when it fails.
-/

namespace Folio

structure Conversion (α : Type) where
  log : List LogEntry := []
  result : Except ConversionError α

namespace Conversion

variable {α β : Type}

def bind (c : Conversion α) (f : α → Conversion β) : Conversion β :=
  match c.result with
  | .error e => ⟨c.log, .error e⟩
  | .ok value =>
    let next := f value
    ⟨c.log ++ next.log, next.result⟩

instance : Monad Conversion where
  pure value := ⟨[], .ok value⟩
  bind := bind

/-- The conversion as part of a session. -/
def inSession (c : Conversion α) : Session α := do
  Session.logAll c.log
  match c.result with
  | .ok value => .done value
  | .error e => .failed (.conversion e)

end Conversion

structure Converter where
  dialect : Dialect := {}
  policy : UnrecognizedPolicy := .drop
  fonts : Fonts := {}

namespace Converter

/-- Reads font files, each of which is logged. -/
def readFonts : List String → Session (List Bytes)
  | [] => .done []
  | path :: rest =>
    .read path fun
      | .error e => .failed (.conversion (.render (.font path e)))
      | .ok font => .log (.loadedFont path font.length) (do
        let fonts ← readFonts rest
        .done (font :: fonts))

/-- The converter of a configuration. Its fonts are read once. -/
def ofConfig (config : Config) : Session Converter := do
  let files ← readFonts config.fonts.files
  .done {
    dialect := config.dialect
    policy := config.policy
    fonts := { files, system := config.fonts.system } }

def blocks (c : Converter) (markdown : String) : Conversion (List Block) :=
  ⟨[], Block.ofMarkdown c.dialect markdown⟩

def document (c : Converter) (markdown : String) : Conversion Document := do
  let blocks ← c.blocks markdown
  let (document, log) := Document.ofBlocks c.policy blocks
  ⟨log, .ok document⟩

def markup (c : Converter) (markdown : String) : Conversion String := do
  let document ← c.document markdown
  pure (Typst.markup document)

def renderError {α : Type} (kind : String → RenderError) : Except String α → Conversion α
  | .ok value => pure value
  | .error details => ⟨[], .error (.render (kind details))⟩

def typeset (t : Typesetter) (c : Converter) (markdown : String) : Conversion Typeset := do
  let document ← c.document markdown
  let entry := LogEntry.compiling document.content.length (Typst.markup document).utf8ByteSize
  ⟨[entry], .ok ()⟩
  renderError .compile (t.compile c.fonts document)

/-- One file with all pages. -/
def pdf (t : Typesetter) (c : Converter) (markdown : String) : Conversion Bytes := do
  let typeset ← c.typeset t markdown
  renderError .pdf typeset.pdf

/-- The file with all pages, delivered to a sink. -/
def deliverPdf (t : Typesetter) (c : Converter) (markdown : String) (sink : Sink) :
    Conversion (Delivery Nat) := do
  let file ← c.pdf t markdown
  pure (Delivery.run file sink)

/-- A drawing of each page. -/
def pages (t : Typesetter) (c : Converter) (markdown : String) : Conversion PageDrawings := do
  let typeset ← c.typeset t markdown
  pure (.ofPages typeset.pages)

end Converter

end Folio

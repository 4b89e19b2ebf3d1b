import Folio.Block.Folding
import Folio.Block.Frontmatter
import Folio.Error
import Folio.Markdown.Reading
/-!
# Blocks of a markdown text

The events of a text, folded into its blocks. A text without characters is refused.
-/

namespace Folio

/-- The blocks of a text; a block of metadata before it is dropped if the dialect says so. -/
def Block.ofMarkdown (dialect : Dialect) (markdown : String) : Except ConversionError (List Block) :=
  if markdown.isEmpty then .error .emptyInput
  else
    let text := markdown.toList
    let source := if dialect.stripFrontmatter then Frontmatter.strip text else text
    let events := Markdown.events dialect.gfm source
    .ok (((Folding.run? source dialect.breaks {} events).map (·.blocks)).getD [])

end Folio

/-!
# Dialects

The settings under which a text is read: whether tables, strikethrough, task lists and footnotes are
known, whether a line end inside a paragraph is a line break, and whether a leading block of metadata
is dropped.
-/

namespace Folio

structure Dialect where
  gfm : Bool := true
  breaks : Bool := false
  stripFrontmatter : Bool := false
deriving DecidableEq, Repr

end Folio

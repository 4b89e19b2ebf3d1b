import Folio.Inline
/-!
# Block tokens

A text is read into a flat list of blocks. Lists and quotes hold inline content only: blocks nested in
them have been folded into it. A `blank` stands between two blocks that the source separates by a
blank line, and a block kind without a token of its own keeps its source text.
-/

namespace Folio

inductive Block where
  | heading (depth : Nat) (content : List Inline)
  | paragraph (content : List Inline)
  | code (text : String)
  | list (ordered : Bool) (items : List (List Inline))
  | quote (content : List Inline)
  | rule
  | blank
  | unrecognized (raw : String)

end Folio

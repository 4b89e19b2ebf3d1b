import Folio.Inline
import Folio.Style
/-!
# Runs

A run is a piece of text with one appearance. Inline tokens are flattened into runs, one for each leaf
from left to right. A wrapper turns its mark on for everything inside it, and no mark is ever turned
off; style and link are the leaf's own.
-/

namespace Folio

structure Run where
  text : String := ""
  bold : Bool := false
  italic : Bool := false
  strikethrough : Bool := false
  link : Option String := none
  style : Option StyleName := none
deriving DecidableEq, Repr

/-- The marks that enclosing tokens have turned on. -/
structure Marks where
  bold : Bool := false
  italic : Bool := false
  strikethrough : Bool := false
deriving DecidableEq, Repr

namespace Run

def plain (text : String) : Run :=
  { text }

def styled (text : String) (style : StyleName) : Run :=
  { text, style := some style }

def withBold (run : Run) : Run :=
  { run with bold := true }

def withItalic (run : Run) : Run :=
  { run with italic := true }

def withStrikethrough (run : Run) : Run :=
  { run with strikethrough := true }

def mark (run : Run) (marks : Marks) : Run :=
  { run with
    bold := run.bold || marks.bold
    italic := run.italic || marks.italic
    strikethrough := run.strikethrough || marks.strikethrough }

mutual

/-- The runs of one token under the marks of what encloses it. -/
def ofToken (marks : Marks) : Inline → List Run
  | .text literal => [(plain literal).mark marks]
  | .strong children => ofTokens { marks with bold := true } children
  | .emphasis children => ofTokens { marks with italic := true } children
  | .strikethrough children => ofTokens { marks with strikethrough := true } children
  | .code literal => [(styled literal .inlineCode).mark marks]
  | .link display href => [{ styled display .link with link := some href }.mark marks]
  | .lineBreak => [(plain "\n").mark marks]
  | .unrecognized (some literal) (some children) =>
    if literal = "" then ofTokens marks children else [(plain literal).mark marks]
  | .unrecognized (some literal) none =>
    if literal = "" then [] else [(plain literal).mark marks]
  | .unrecognized none (some children) => ofTokens marks children
  | .unrecognized none none => []

def ofTokens (marks : Marks) : List Inline → List Run
  | [] => []
  | token :: rest => ofToken marks token ++ ofTokens marks rest

end

/-- The runs of a sequence of tokens. -/
def ofInline (tokens : List Inline) : List Run :=
  ofTokens {} tokens

end Run

end Folio

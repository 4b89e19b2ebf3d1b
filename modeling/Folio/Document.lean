import Folio.Run
/-!
# Documents

What a renderer is given: a list of nodes, each placed on the page with its own margin, and the style
table and default font that they refer to. A node is a block of text, a list, or a ruled line.
-/

namespace Folio

/-- A straight line between two points, in points from the origin of its node. -/
structure Line where
  x1 : Float
  y1 : Float
  x2 : Float
  y2 : Float
deriving DecidableEq, Repr

inductive Node where
  | textBlock (runs : List Run) (style : StyleName) (margin : Margin)
  | listBlock (ordered : Bool) (items : List (List Run)) (margin : Margin)
  | ruleBlock (line : Line) (lineWidth : Float) (color : String) (margin : Margin)
deriving DecidableEq, Repr

/-- The runs of a node; list items in order. -/
def Node.runs : Node → List Run
  | .textBlock runs _ _ => runs
  | .listBlock _ items _ => items.flatten
  | .ruleBlock .. => []

structure Document where
  content : List Node
  styles : StyleTable := standardStyles
  defaultFont : String := Folio.defaultFont
deriving DecidableEq, Repr

end Folio

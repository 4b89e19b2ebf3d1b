import Folio.Decimal.Written
import Folio.Text.Quoted
/-!
# Log entries

What the program reports while it works. An entry is a value; its level, its message and the component
that reports it are read off it.
-/

namespace Folio

inductive LogLevel where
  | error
  | warn
  | info
  | debug
  | trace
deriving DecidableEq, Repr

namespace LogLevel

def label : LogLevel → String
  | error => "ERROR"
  | warn => "WARN"
  | info => "INFO"
  | debug => "DEBUG"
  | trace => "TRACE"

/-- Higher is more talkative. -/
def rank : LogLevel → Nat
  | error => 1
  | warn => 2
  | info => 3
  | debug => 4
  | trace => 5

end LogLevel

inductive LogEntry where
  | droppedBlock (bytes : Nat) (preview : String)
  | transformed (blocks nodes : Nat)
  | loadedFont (path : String) (bytes : Nat)
  | compiling (nodes bytes : Nat)
  | wrotePdf (bytes : Nat)
  | wrotePages (count : Nat) (width height : Float)
deriving DecidableEq, Repr

namespace LogEntry

def level : LogEntry → LogLevel
  | droppedBlock .. => .warn
  | transformed .. => .debug
  | loadedFont .. => .debug
  | compiling .. => .debug
  | wrotePdf .. => .info
  | wrotePages .. => .info

/-- The component that reports the entry. -/
def target : LogEntry → String
  | droppedBlock .. => "mdpdf::transform"
  | transformed .. => "mdpdf::transform"
  | loadedFont .. => "mdpdf::render"
  | compiling .. => "mdpdf::render"
  | wrotePdf .. => "mdpdf"
  | wrotePages .. => "mdpdf"

def message : LogEntry → String
  | droppedBlock bytes preview =>
    "dropping unrecognized block (" ++ Nat.repr bytes ++ " bytes): " ++
      String.ofList (Text.quoted preview.toList)
  | transformed blocks nodes =>
    "transformed " ++ Nat.repr blocks ++ " blocks into " ++ Nat.repr nodes ++ " nodes"
  | loadedFont path bytes => "loaded font " ++ path ++ " (" ++ Nat.repr bytes ++ " bytes)"
  | compiling nodes bytes =>
    "compiling " ++ Nat.repr nodes ++ " nodes (" ++ Nat.repr bytes ++ " bytes of markup)"
  | wrotePdf bytes => "wrote " ++ Nat.repr bytes ++ " bytes of PDF"
  | wrotePages count width height =>
    "wrote " ++ Nat.repr count ++ " pages (" ++ Decimal.plainString width ++ "x" ++
      Decimal.plainString height ++ "pt)"

end LogEntry

end Folio

import Folio.CommandLine.Arguments
import Folio.Converter
import Folio.Document.Json
import Folio.Json.Printer
import Folio.Log.Filter
/-!
# The command line

A request names an input and says what to make of it and where to put the result; a single hyphen
stands for the standard input and output. The configuration is read first, then the fonts, then the
input. A PDF file is opened before the conversion, so an input that cannot be converted leaves it
empty; every other output is opened when its content is known.

Drawings of more than one page go to files of their own beside the output, which are numbered.
-/

namespace Folio.CommandLine

/-- Whether a path stands for the standard input or output. -/
def isStandard (path : String) : Bool :=
  path = "-"

def readInput (path : String) : Session String :=
  if isStandard path then Session.inputText else Session.readText path (.readingFile path)

/-- Creates the file of an output. -/
def openOutput (path : String) : Session Unit :=
  if isStandard path then .done ()
  else .create path fun
    | .ok () => .done ()
    | .error e => .failed (.writing path e)

def writeOutput (path : String) (content : Bytes) : Session Unit :=
  if isStandard path then .print content (.done ()) else .append path content (.done ())

def store (path : String) (content : Bytes) : Session Unit := do
  openOutput path
  writeOutput path content

/-- The name of page files where the output has none. -/
def pageStem : String := "page"

/-- The file of the page with a number, beside the output. -/
def pagePath (path : String) (number : Nat) : String :=
  Path.withName path ((Path.stem? path).getD pageStem ++ "-" ++ Nat.repr number ++ ".svg")

def storePages (path : String) : Nat → List Bytes → Session Unit
  | _, [] => .done ()
  | number, page :: rest => do
    store (pagePath path number) page
    storePages path (number + 1) rest

/-- Stores drawings: one in the output itself, more in files of their own. The standard output gets all
of them. -/
def storeDrawings (path : String) (drawings : List Bytes) : Session Unit :=
  if drawings.length ≤ 1 || isStandard path then store path drawings.flatten
  else storePages path 1 drawings

namespace Request

/-- The output, if it is not given: the input with the extension of the format. -/
def outputPath (r : Request) : String :=
  r.output.getD
    (if isStandard r.input then "-" else Path.withExtension r.input r.format.extension)

def loadConfig (r : Request) : Session Config :=
  match r.config with
  | some path => Config.load path
  | none => .done {}

/-- Converts the input and stores the result. -/
def convert (t : Typesetter) (r : Request) (c : Converter) (markdown : String) :
    Session Unit :=
  let output := r.outputPath
  match r.format with
  | .pdf => do
    openOutput output
    let file ← (c.pdf t markdown).inSession
    writeOutput output file
    .log (.wrotePdf file.length) (.done ())
  | .svg => do
    let pages ← (c.pages t markdown).inSession
    storeDrawings output pages.drawings
    .log (.wrotePages pages.drawings.length pages.width pages.height) (.done ())
  | .typst => do
    let markup ← (c.markup markdown).inSession
    store output (Bytes.ofString markup)
  | .json => do
    let document ← (c.document markdown).inSession
    store output (Bytes.ofString document.toJson.spread)

/-- All that a request does. -/
def session (t : Typesetter) (r : Request) : Session Unit := do
  let config ← r.loadConfig
  let converter ← Converter.ofConfig config
  let markdown ← readInput r.input
  r.convert t converter markdown

/-- What is said last when a request is done. -/
def announcement (r : Request) : List String :=
  if isStandard r.outputPath then [] else ["Created " ++ r.outputPath]

/-- The filter of log entries: the one that is given, or one that follows from the request. -/
def logFilter (r : Request) (given : Option String) : LogFilter × List String :=
  LogFilter.ofText (given.getD (if r.verbose then "debug" else "warn"))

end Request

def help : String :=
  "Convert Markdown text to PDF\n\n" ++
  "Usage: mdpdf [OPTIONS] <INPUT>\n\n" ++
  "Arguments:\n" ++
  "  <INPUT>  Input Markdown file, or \x60-\x60 for stdin\n\n" ++
  "Options:\n" ++
  "  -o, --output <OUTPUT>  Output file, or \x60-\x60 for stdout " ++
  "(defaults to the input name with the format's extension)\n" ++
  "  -c, --config <CONFIG>  Config file (TOML)\n" ++
  "  -f, --format <FORMAT>  Output format [default: pdf] " ++
  "[possible values: pdf, svg, typst, json]\n" ++
  "  -v, --verbose          Log progress to stderr\n" ++
  "  -h, --help             Print help\n"

/-- What is said about arguments that are refused. -/
def usageReport (error : UsageError) : List String :=
  ["error: " ++ error.message, "", "Usage: mdpdf [OPTIONS] <INPUT>", "",
    "For more information, try '--help'."]

def exitDone : Nat := 0

def exitFailed : Nat := 1

def exitUsage : Nat := 2

/-- What a run comes to: the exit code, the lines of the standard error output, and the world after
it. -/
structure Outcome where
  exit : Nat
  errors : List String
  world : World

/-- The last lines and the exit code of a session. -/
def conclude (r : Request) : Except Failure Unit → List String × Nat
  | .ok () => (r.announcement, exitDone)
  | .error failure => (failure.report, exitFailed)

/-- Runs the program with arguments on a world. -/
def run (t : Typesetter) (logSpec : Option String) (arguments : List String) (w : World) : Outcome :=
  match Request.ofArguments arguments with
  | .error .help => ⟨exitDone, [], { w with output := w.output ++ Bytes.ofString help }⟩
  | .error (.usage error) => ⟨exitUsage, usageReport error, w⟩
  | .ok r =>
    let (filter, warnings) := r.logFilter logSpec
    let (result, w) := (r.session t).run w
    let (last, exit) := conclude r result
    let shown := (w.log.filter filter.shows).map LogEntry.line
    ⟨exit, warnings ++ shown ++ last, w⟩

end Folio.CommandLine

/-!
# Failures

Each failure is a value that says what went wrong; its message is read off it. A failure that comes
from the file system also has a cause, which a report shows below the message.
-/

namespace Folio

/-- What the file system, or the decoding of a file's text, refuses. -/
inductive FileError where
  | notFound
  | isDirectory
  | notDirectory
  | invalidText
  | other (details : String)
deriving DecidableEq, Repr

def FileError.message : FileError → String
  | notFound => "No such file or directory (os error 2)"
  | isDirectory => "Is a directory (os error 21)"
  | notDirectory => "Not a directory (os error 20)"
  | invalidText => "stream did not contain valid UTF-8"
  | other details => details

inductive RenderError where
  | compile (details : String)
  | pdf (details : String)
  | font (path : String) (cause : FileError)
  | sink (reason : String)
deriving DecidableEq, Repr

namespace RenderError

def message : RenderError → String
  | compile details => "Typst compilation failed: " ++ details
  | pdf details => "PDF generation failed: " ++ details
  | font path cause => "Failed to read font file " ++ path ++ ": " ++ cause.message
  | sink reason => "Failed to write rendered output: " ++ reason

def cause? : RenderError → Option String
  | font _ cause => some cause.message
  | sink reason => some reason
  | _ => none

end RenderError

inductive ConversionError where
  | emptyInput
  | render (error : RenderError)
deriving DecidableEq, Repr

namespace ConversionError

def message : ConversionError → String
  | emptyInput => "Text content is required"
  | render error => error.message

def cause? : ConversionError → Option String
  | emptyInput => none
  | render error => error.cause?

end ConversionError

inductive ConfigError where
  | read (path : String) (cause : FileError)
  | parse (path : String)
deriving DecidableEq, Repr

namespace ConfigError

def message : ConfigError → String
  | read path cause => "Failed to read config file at " ++ path ++ ": " ++ cause.message
  | parse path => "Failed to parse config file at " ++ path

def cause? : ConfigError → Option String
  | read _ cause => some cause.message
  | parse _ => none

end ConfigError

/-- Why a run of the program failed. -/
inductive Failure where
  | config (error : ConfigError)
  | conversion (error : ConversionError)
  | readingFile (path : String) (cause : FileError)
  | readingInput (cause : FileError)
  | writing (path : String) (cause : FileError)
deriving DecidableEq, Repr

namespace Failure

def message : Failure → String
  | config error => error.message
  | conversion error => error.message
  | readingFile path _ => "Error reading " ++ path
  | readingInput _ => "Error reading stdin"
  | writing path _ => "Error writing " ++ path

def cause? : Failure → Option String
  | config error => error.cause?
  | conversion error => error.cause?
  | readingFile _ cause => some cause.message
  | readingInput cause => some cause.message
  | writing _ cause => some cause.message

/-- The lines that report a failure: its message and, below it, its cause. -/
def report (failure : Failure) : List String :=
  ("Error: " ++ failure.message) ::
    match failure.cause? with
    | some cause => ["", "Caused by:", "    " ++ cause]
    | none => []

end Failure

end Folio

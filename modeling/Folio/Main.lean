import Folio.CommandLine.Basic
import Folio.Typesetter.Sheets
/-!
# The program

Carries out a request against the real file system and the standard streams.
-/

namespace Folio.Program

/-- The number of the error that a file stands where a directory should. -/
def notDirectoryCode : UInt32 := 20

/-- The reason of a failed operation on files. Some operations give the negated number. -/
def fileError (e : IO.Error) : FileError :=
  match e with
  | .noFileOrDirectory .. => .notFound
  | .inappropriateType _ code _ =>
    if code = notDirectoryCode || code = -notDirectoryCode then .notDirectory else .isDirectory
  | e => .other (toString e)

def toByteArray (bytes : Bytes) : ByteArray :=
  ⟨bytes.toArray⟩

def attempt {α : Type} (action : IO α) : IO (Except FileError α) := do
  try
    let value ← action
    pure (.ok value)
  catch e => pure (.error (fileError e))

def printErrors (lines : List String) : IO Unit :=
  lines.forM fun line => IO.eprintln line

def carryOut (filter : LogFilter) : Session Unit → IO (Except Failure Unit)
  | .done value => pure (.ok value)
  | .failed failure => pure (.error failure)
  | .read path next => do
    let content ← attempt (IO.FS.readBinFile path)
    carryOut filter (next (content.map fun bytes => bytes.data.toList))
  | .contains path next => do
    let found ← attempt (IO.FS.readBinFile path)
    let missing := match found with
      | .error .notFound | .error .notDirectory => true
      | _ => false
    carryOut filter (next !missing)
  | .input next => do
    let bytes ← (← IO.getStdin).readBinToEnd
    carryOut filter (next bytes.data.toList)
  | .create path next => do
    let created ← attempt (IO.FS.writeBinFile path ByteArray.empty)
    carryOut filter (next created)
  | .append path content next => do
    let handle ← IO.FS.Handle.mk path .append
    handle.write (toByteArray content)
    carryOut filter next
  | .print content next => do
    let output ← IO.getStdout
    output.write (toByteArray content)
    output.flush
    carryOut filter next
  | .log entry next => do
    if filter.shows entry then IO.eprintln entry.line
    carryOut filter next

end Folio.Program

open Folio CommandLine in
def main (arguments : List String) : IO UInt32 := do
  match Request.ofArguments arguments with
  | .error .help =>
    IO.print help
    pure exitDone.toUInt32
  | .error (.usage error) =>
    Program.printErrors (usageReport error)
    pure exitUsage.toUInt32
  | .ok r =>
    let (filter, warnings) := r.logFilter (← IO.getEnv "RUST_LOG")
    Program.printErrors warnings
    let result ← Program.carryOut filter (r.session Sheets.typesetter)
    let (last, exit) := conclude r result
    Program.printErrors last
    pure exit.toUInt32

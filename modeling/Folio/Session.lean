import Folio.Files
import Folio.Log
/-!
# Sessions

What a program does with the world around it, as a value. A session is done, has failed, or asks for
one thing and says how it goes on with the answer. It can be carried out on a world that is itself a
value, or against a real file system.

The world has files, an input, an output, and the log of what happened.
-/

namespace Folio

inductive Session (α : Type) where
  | done (value : α)
  | failed (failure : Failure)
  | read (path : String) (next : Except FileError Bytes → Session α)
  | contains (path : String) (next : Bool → Session α)
  | input (next : Bytes → Session α)
  | create (path : String) (next : Except FileError Unit → Session α)
  | append (path : String) (content : Bytes) (next : Session α)
  | print (content : Bytes) (next : Session α)
  | log (entry : LogEntry) (next : Session α)

structure World where
  files : Files := {}
  input : Bytes := []
  output : Bytes := []
  log : List LogEntry := []

namespace Session

variable {α β : Type}

def bind : Session α → (α → Session β) → Session β
  | done value, f => f value
  | failed failure, _ => failed failure
  | read path next, f => read path fun r => (next r).bind f
  | contains path next, f => contains path fun r => (next r).bind f
  | input next, f => input fun r => (next r).bind f
  | create path next, f => create path fun r => (next r).bind f
  | append path content next, f => append path content (next.bind f)
  | print content next, f => print content (next.bind f)
  | log entry next, f => log entry (next.bind f)

instance : Monad Session where
  pure := done
  bind := bind

/-- Carries a session out on a world. -/
def run : Session α → World → Except Failure α × World
  | done value, w => (.ok value, w)
  | failed failure, w => (.error failure, w)
  | read path next, w => (next (w.files.read path)).run w
  | contains path next, w => (next (w.files.contains path)).run w
  | input next, w => (next w.input).run w
  | create path next, w =>
    match w.files.create path with
    | .ok files => (next (.ok ())).run { w with files }
    | .error e => (next (.error e)).run w
  | append path content next, w => next.run { w with files := w.files.append path content }
  | print content next, w => next.run { w with output := w.output ++ content }
  | log entry next, w => next.run { w with log := w.log ++ [entry] }

theorem run_bind (s : Session α) (f : α → Session β) (w : World) :
    (s.bind f).run w =
      match s.run w with
      | (.ok value, w) => (f value).run w
      | (.error failure, w) => (.error failure, w) := by
  induction s generalizing w with
  | done | failed => rfl
  | read path next ih | contains path next ih => exact ih _ w
  | input next ih => exact ih _ w
  | create path next ih =>
    simp only [bind, run]
    split <;> exact ih _ _
  | append _ _ _ ih | print _ _ ih | log _ _ ih => exact ih _

/-- The text of a file; bytes that are no text are refused. -/
def readText (path : String) (refuse : FileError → Failure) : Session String :=
  read path fun
    | .ok bytes =>
      match bytes.toString? with
      | some text => done text
      | none => failed (refuse .invalidText)
    | .error e => failed (refuse e)

/-- The text of the input. -/
def inputText : Session String :=
  input fun bytes =>
    match bytes.toString? with
    | some text => done text
    | none => failed (.readingInput .invalidText)

def logAll : List LogEntry → Session Unit
  | [] => done ()
  | entry :: rest => log entry (logAll rest)

end Session

end Folio

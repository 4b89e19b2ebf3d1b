/-!
# Command line arguments

One argument names the input. Options have a long and a short name; the value of an option may be
attached to it or follow it, and short options without a value may be joined. A single hyphen is no
option, and after two hyphens nothing is one. No option is given twice.
-/

namespace Folio.CommandLine

inductive OutputFormat where
  | pdf
  | svg
  | typst
  | json
deriving DecidableEq, Repr

namespace OutputFormat

def label : OutputFormat → String
  | pdf => "pdf"
  | svg => "svg"
  | typst => "typst"
  | json => "json"

def extension : OutputFormat → String
  | pdf => "pdf"
  | svg => "svg"
  | typst => "typ"
  | json => "json"

def all : List OutputFormat := [pdf, svg, typst, json]

def ofLabel? (label : String) : Option OutputFormat :=
  all.find? fun format => format.label = label

end OutputFormat

/-- An option of the command line. -/
inductive Flag where
  | output
  | config
  | format
  | verbose
  | help
deriving DecidableEq, Repr

namespace Flag

def longName : Flag → String
  | output => "output"
  | config => "config"
  | format => "format"
  | verbose => "verbose"
  | help => "help"

def shortName : Flag → Char
  | output => 'o'
  | config => 'c'
  | format => 'f'
  | verbose => 'v'
  | help => 'h'

def all : List Flag := [output, config, format, verbose, help]

def takesValue : Flag → Bool
  | output | config | format => true
  | verbose | help => false

end Flag

/-- Why arguments are refused. -/
inductive UsageError where
  | missingInput
  | unexpected (argument : String)
  | missingValue (flag : Flag)
  | excessValue (flag : Flag) (value : String)
  | invalidFormat (value : String)
  | repeated (flag : Flag)
deriving DecidableEq, Repr

def UsageError.message : UsageError → String
  | missingInput => "the input is missing"
  | unexpected argument => "unexpected argument '" ++ argument ++ "'"
  | missingValue flag => "a value is required for '--" ++ flag.longName ++ "'"
  | excessValue flag value => "no value is expected for '--" ++ flag.longName ++ "', got '" ++ value ++ "'"
  | invalidFormat value => "invalid format '" ++ value ++ "'"
  | repeated flag => "'--" ++ flag.longName ++ "' cannot be used multiple times"

/-- Arguments that do not say what to do. -/
inductive Refusal where
  | help
  | usage (error : UsageError)
deriving DecidableEq, Repr

/-- What has been given so far. -/
structure Given where
  input : Option String := none
  output : Option String := none
  config : Option String := none
  format : Option OutputFormat := none
  verbose : Bool := false

/-- What is to be done. -/
structure Request where
  input : String
  output : Option String
  config : Option String
  format : OutputFormat
  verbose : Bool
deriving DecidableEq, Repr

namespace Given

def refuse {α : Type} (error : UsageError) : Except Refusal α :=
  .error (.usage error)

def addInput (g : Given) (value : String) : Except Refusal Given :=
  if g.input.isSome then refuse (.unexpected value)
  else if value = "" then refuse .missingInput
  else .ok { g with input := some value }

/-- A path may not be empty, and no option is given twice. -/
def addValue (g : Given) (flag : Flag) (value : String) : Except Refusal Given :=
  match flag with
  | .output =>
    if value = "" then refuse (.missingValue flag)
    else if g.output.isSome then refuse (.repeated flag)
    else .ok { g with output := some value }
  | .config =>
    if value = "" then refuse (.missingValue flag)
    else if g.config.isSome then refuse (.repeated flag)
    else .ok { g with config := some value }
  | .format =>
    match OutputFormat.ofLabel? value with
    | none => refuse (.invalidFormat value)
    | some format =>
      if g.format.isSome then refuse (.repeated flag) else .ok { g with format := some format }
  | .verbose | .help => refuse (.excessValue flag value)

def addPlain (g : Given) (flag : Flag) : Except Refusal Given :=
  match flag with
  | .verbose =>
    if g.verbose then refuse (.repeated flag) else .ok { g with verbose := true }
  | .help => .error .help
  | .output | .config | .format => refuse (.missingValue flag)

/-- Reads joined short options. The answer also has the option that still waits for its value. -/
def addShort (g : Given) (argument : String) : List Char → Except Refusal (Given × Option Flag)
  | [] => .ok (g, none)
  | c :: rest =>
    match Flag.all.find? (·.shortName = c) with
    | none => refuse (.unexpected argument)
    | some flag =>
      if flag.takesValue then
        match rest with
        | [] => .ok (g, some flag)
        | '=' :: value => (g.addValue flag (String.ofList value)).map (·, none)
        | value => (g.addValue flag (String.ofList value)).map (·, none)
      else do
        let g ← g.addPlain flag
        g.addShort argument rest

/-- Reads a long option, after its hyphens. -/
def addLong (g : Given) (argument : String) (text : List Char) :
    Except Refusal (Given × Option Flag) :=
  let name := text.takeWhile (· ≠ '=')
  match Flag.all.find? (·.longName.toList = name) with
  | none => refuse (.unexpected argument)
  | some flag =>
    match text.drop name.length with
    | _ :: value => (g.addValue flag (String.ofList value)).map (·, none)
    | [] =>
      if flag.takesValue then .ok (g, some flag) else (g.addPlain flag).map (·, none)

def addAllInputs (g : Given) : List String → Except Refusal Given
  | [] => .ok g
  | value :: rest => do
    let g ← g.addInput value
    g.addAllInputs rest

/-- Reads all arguments; `waiting` is an option whose value comes next. -/
def addAll (g : Given) (waiting : Option Flag) : List String → Except Refusal Given
  | [] =>
    match waiting with
    | none => .ok g
    | some flag => refuse (.missingValue flag)
  | argument :: rest =>
    match waiting, argument.toList with
    | some flag, '-' :: _ :: _ => refuse (.missingValue flag)
    | some flag, _ => do
      let g ← g.addValue flag argument
      g.addAll none rest
    | none, ['-', '-'] => g.addAllInputs rest
    | none, '-' :: '-' :: text => do
      let (g, waiting) ← g.addLong argument text
      g.addAll waiting rest
    | none, '-' :: c :: text => do
      let (g, waiting) ← g.addShort argument (c :: text)
      g.addAll waiting rest
    | none, _ => do
      let g ← g.addInput argument
      g.addAll none rest

end Given

/-- The request that arguments make. -/
def Request.ofArguments (arguments : List String) : Except Refusal Request := do
  let g ← Given.addAll {} none arguments
  match g.input with
  | none => Given.refuse .missingInput
  | some input => .ok {
      input
      output := g.output
      config := g.config
      format := g.format.getD .pdf
      verbose := g.verbose }

end Folio.CommandLine

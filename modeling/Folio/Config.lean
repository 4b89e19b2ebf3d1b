import Folio.Dialect
import Folio.Document.OfBlocks
import Folio.Session
import Folio.Toml.Reading
/-!
# Configuration

The settings of a conversion: how markdown is read, what becomes of blocks without a layout, and which
fonts there are. They are read from a TOML document with a section for each. What is not set keeps its
default, and what is not known is passed over. A section may also be an array, whose items are its
settings in order.
-/

namespace Folio

structure FontSettings where
  system : Bool := false
  files : List String := []
deriving DecidableEq, Repr

structure Config where
  dialect : Dialect := {}
  policy : UnrecognizedPolicy := .drop
  fonts : FontSettings := {}
deriving DecidableEq, Repr

namespace Config

open Toml (Value)

/-- The setting that values have under a key, or at a position if they are an array. -/
def setting? (values : Value) (key : String) (position : Nat) : Option Value :=
  match values with
  | .table fields => (fields.find? (·.1 = key)).map (·.2)
  | .array items => items[position]?
  | _ => none

/-- A setting that is read, or its default if it is not set; `none` if it cannot be read. -/
def readOr? {α : Type} (read : Value → Option α) (default : α) (value : Option Value) : Option α :=
  match value with
  | none => some default
  | some value => read value

def isSection : Value → Bool
  | .table _ | .array _ => true
  | _ => false

def boolean? : Value → Option Bool
  | .boolean value => some value
  | _ => none

def text? : Value → Option String
  | .text value => some value
  | _ => none

def texts? : Value → Option (List String)
  | .array items => items.mapM text?
  | _ => none

/-- A policy is named by a text, or by the one key of a table that says nothing more. -/
def policy? : Value → Option UnrecognizedPolicy
  | .text label => UnrecognizedPolicy.ofLabel? label
  | .table [(label, .table [])] => UnrecognizedPolicy.ofLabel? label
  | .table [(label, .array [])] => UnrecognizedPolicy.ofLabel? label
  | _ => none

def dialect? (value : Value) : Option Dialect :=
  if isSection value then do
    let standard : Dialect := {}
    some {
      gfm := ← readOr? boolean? standard.gfm (setting? value "gfm" 0)
      breaks := ← readOr? boolean? standard.breaks (setting? value "breaks" 1)
      stripFrontmatter :=
        ← readOr? boolean? standard.stripFrontmatter (setting? value "strip_frontmatter" 2) }
  else none

def policySection? (value : Value) : Option UnrecognizedPolicy :=
  if isSection value then readOr? policy? .drop (setting? value "unrecognized" 0) else none

def fonts? (value : Value) : Option FontSettings :=
  if isSection value then do
    let standard : FontSettings := {}
    some {
      system := ← readOr? boolean? standard.system (setting? value "system_fonts" 0)
      files := ← readOr? texts? standard.files (setting? value "font_files" 1) }
  else none

def ofFields? (fields : List (String × Value)) : Option Config := do
  let document := Value.table fields
  let standard : Config := {}
  some {
    dialect := ← readOr? dialect? standard.dialect (setting? document "lexer" 0)
    policy := ← readOr? policySection? standard.policy (setting? document "transform" 1)
    fonts := ← readOr? fonts? standard.fonts (setting? document "render" 2) }

/-- The configuration that a TOML document writes. -/
def ofToml? (text : String) : Option Config :=
  (Toml.document? text).bind ofFields?

/-- Reads the configuration in a file. -/
def load (path : String) : Session Config := do
  let text ← Session.readText path fun cause => .config (.read path cause)
  match ofToml? text with
  | some config => .done config
  | none => .failed (.config (.parse path))

/-- Reads the configuration in a file, if there is one. -/
def loadOrDefault (path : String) : Session Config :=
  .contains path fun
    | true => load path
    | false => .done {}

end Config

end Folio

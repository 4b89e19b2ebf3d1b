import Folio.Error
import Folio.Path
/-!
# File systems

A file system as a value: what stands at each place below a working directory. A place is the list of
names that lead to it. A path is walked name by name, and each name but the last has to lead to a
directory. Absolute paths, and paths that lead above the working directory, go to places of their own,
where nothing stands at first.
-/

namespace Folio

abbrev Bytes := List UInt8

/-- The bytes of a text. -/
def Bytes.ofString (text : String) : Bytes :=
  text.toUTF8.data.toList

/-- The text that bytes encode. -/
def Bytes.toString? (bytes : Bytes) : Option String :=
  String.fromUTF8? ⟨bytes.toArray⟩

inductive FileEntry where
  | file (content : Bytes)
  | directory
deriving DecidableEq, Repr

abbrev Place := List String

structure Files where
  entries : List (Place × FileEntry) := []
deriving DecidableEq, Repr

namespace Files

/-- The beginning of every absolute place. -/
def root : Place := ["/"]

def workingDirectory : Place := []

/-- The working directory and the directories above it. -/
def isAbove (place : Place) : Bool :=
  place.all (· = "..")

/-- The directory that a place is in. -/
def parent (place : Place) : Place :=
  if place = root then root
  else if isAbove place then place ++ [".."]
  else place.dropLast

def entry? (files : Files) (place : Place) : Option FileEntry :=
  if isAbove place || place = root then some .directory
  else (files.entries.find? (·.1 = place)).map (·.2)

/-- The place that segments lead to from another. A segment past a place needs a directory there. -/
def walk (files : Files) (place : Place) : Path.Segments → Except FileError Place
  | [] => .ok place
  | segment :: rest =>
    match files.entry? place with
    | none => .error .notFound
    | some (.file _) => .error .notDirectory
    | some .directory =>
      if segment.isEmpty || segment = Path.dot then walk files place rest
      else if segment = Path.dotDot then
        walk files (parent place) rest
      else walk files (place ++ [String.ofList segment]) rest

/-- Where the segments of a path start from. -/
def start (path : String) : Place :=
  if path.startsWith "/" then root else workingDirectory

/-- The place of a path, where something stands. -/
def locate (files : Files) (path : String) : Except FileError (Place × FileEntry) :=
  if path = "" then .error .notFound
  else do
    let place ← files.walk (start path) (Path.segments path)
    match files.entry? place with
    | some entry => .ok (place, entry)
    | none => .error .notFound

def contains (files : Files) (path : String) : Bool :=
  (files.locate path).isOk

def read (files : Files) (path : String) : Except FileError Bytes := do
  match ← files.locate path with
  | (_, .file content) => .ok content
  | (_, .directory) => .error .isDirectory

/-- The place of a file that may be created: all but the last segment have to lead to a directory. -/
def creationPlace (files : Files) (path : String) : Except FileError Place :=
  if path = "" then .error .notFound
  else do
    let segments := Path.segments path
    let parent ← files.walk (start path) segments.dropLast
    match files.entry? parent with
    | none => .error (if segments.getLast? = some [] then .isDirectory else .notFound)
    | some (.file _) => .error .notDirectory
    | some .directory =>
      let name := segments.getLast?.getD []
      if name.isEmpty || name = Path.dot || name = Path.dotDot then .error .isDirectory
      else
        let place := parent ++ [String.ofList name]
        match files.entry? place with
        | some .directory => .error .isDirectory
        | _ => .ok place

/-- Puts an entry at a place. -/
def put (files : Files) (place : Place) (entry : FileEntry) : Files :=
  if files.entries.any (·.1 = place) then
    { entries := files.entries.map fun e => if e.1 = place then (place, entry) else e }
  else { entries := files.entries ++ [(place, entry)] }

/-- Creates an empty file, or empties the one that is there. -/
def create (files : Files) (path : String) : Except FileError Files :=
  (files.creationPlace path).map fun place => files.put place (.file [])

/-- Adds bytes at the end of a file. -/
def append (files : Files) (path : String) (content : Bytes) : Files :=
  match files.locate path with
  | .ok (place, .file before) => files.put place (.file (before ++ content))
  | _ => files

/-- Puts an entry at a place with all directories that lead to it. -/
def putWithParents (files : Files) (place : Place) (entry : FileEntry) : Files :=
  let parents := (List.range place.length).filterMap fun n =>
    if 0 < n then some (place.take n) else none
  let files := parents.foldl (fun files parent =>
    if (files.entry? parent).isNone then files.put parent .directory else files) files
  files.put place entry

end Files

end Folio

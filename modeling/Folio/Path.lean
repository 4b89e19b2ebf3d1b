/-!
# Paths

A path is a text whose segments are separated by slashes. Its last segment names a file unless it is
`..`; empty segments and `.` at the end do not count. What stands before the name is kept as it is
written.
-/

namespace Folio.Path

abbrev Segments := List (List Char)

def segments (path : String) : Segments :=
  path.toList.splitOn '/'

def ofSegments (segments : Segments) : String :=
  String.ofList (['/'].intercalate segments)

def dot : List Char := ['.']

def dotDot : List Char := ['.', '.']

/-- Without the segments at the end that do not count. -/
def trimEnd (segments : Segments) : Segments :=
  (segments.reverse.dropWhile fun s => s.isEmpty || s = dot).reverse

/-- The segments before the name of a file, and the name. -/
def splitName? (path : String) : Option (Segments × List Char) :=
  match (trimEnd (segments path)).reverse with
  | [] => none
  | name :: before => if name = dotDot then none else some (before.reverse, name)

/-- The part of a name before its last dot; a name with no other dot than one at its beginning has no
extension. -/
def stemOfName (name : List Char) : List Char :=
  match name.reverse.dropWhile (· ≠ '.') with
  | _ :: before => if before.isEmpty then name else before.reverse
  | [] => name

def stem? (path : String) : Option String :=
  (splitName? path).map fun (_, name) => String.ofList (stemOfName name)

/-- The path with another extension; a path without a name stays as it is. -/
def withExtension (path extension : String) : String :=
  match splitName? path with
  | some (before, name) =>
    ofSegments (before ++ [stemOfName name ++ '.' :: extension.toList])
  | none => path

/-- A name below a directory. -/
def child (directory name : String) : String :=
  if directory = "" then name
  else if directory.toList.getLast? = some '/' then directory ++ name
  else directory ++ "/" ++ name

/-- The directory that the segments before a name denote: the first segment counts even if it is `.`, or
empty because the path begins with a slash. -/
def directoryOf (before : Segments) : String :=
  match trimEnd before, before with
  | [], first :: _ => if first.isEmpty then "/" else ofSegments [first]
  | trimmed, _ => ofSegments trimmed

/-- The path with another name; a path without a name is taken as a directory. -/
def withName (path name : String) : String :=
  match splitName? path with
  | some (before, _) => child (directoryOf before) name
  | none => child path name

end Folio.Path

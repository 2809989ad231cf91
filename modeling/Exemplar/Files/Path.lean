/-! Paths as texts: names with slashes between them. A path that starts with a slash is absolute; a
name `.` stays where it is and `..` goes up. -/
namespace Exemplar.Path

/-- The parts of a path between the slashes, empty ones included. -/
def parts (path : String) : List String :=
  (path.toList.splitOn '/').map String.ofList

/-- The names on the way, without the empty ones that repeated slashes leave. -/
def names (path : String) : List String :=
  (parts path).filter (· ≠ "")

def isAbsolute (path : String) : Bool :=
  path.toList.head? = some '/'

/-- Whether a path asks for a folder by its last character. -/
def endsInSlash (path : String) : Bool :=
  path.toList.getLast? = some '/'

/-- Whether a path is another spelling of `.`. -/
def isCurrent (path : String) : Bool :=
  !path.isEmpty && !isAbsolute path && (names path).all (· = ".")

/-- A path seen from a folder. -/
def join (folder path : String) : String :=
  if isAbsolute path then path
  else if folder.isEmpty || endsInSlash folder then folder ++ path
  else folder ++ "/" ++ path

/-- The path of something in a folder; the current folder is not spelled out. -/
def child (folder name : String) : String :=
  if isCurrent folder then name else join folder name

/-- The text of parts; a single empty part is the root. -/
def ofParts : List String → String
  | [""] => "/"
  | parts => "/".intercalate parts

/-- The paths to each further name, `seen` being the parts before; empty parts and `.` lead nowhere. -/
def stepsFrom (seen : List String) : List String → List String
  | [] => []
  | part :: rest =>
    let further := stepsFrom (seen ++ [part]) rest
    if part = "" || part = "." then further else ofParts (seen ++ [part]) :: further

/-- The paths to everything on the way, the last of them to what the path itself names. -/
def steps (path : String) : List String :=
  match parts path with
  | [] => []
  | first :: rest => ofParts [first] :: stepsFrom [first] rest

/-- The folders that hold what a path names, the nearest first. -/
def folders (path : String) : List String :=
  (steps path).dropLast.reverse

end Exemplar.Path

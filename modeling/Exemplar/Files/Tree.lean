import Exemplar.Dict
import Exemplar.Files.Path

/-! A tree of files and folders with a working folder in it: what reading, making a folder and
writing a file answer.

A place is the list of names that leads from the top of the tree to something. Paths are texts; they
are followed name by name from the top or from the working folder, and every name that is passed has
to be a folder. -/
namespace Exemplar

/-- Why a path cannot be read or written. -/
inductive FileError where
  | absent
  | occupied
  | notFolder
  | isFolder
  | nameTooLong
  /-- The content is not text. -/
  | notText
  deriving DecidableEq

def FileError.message : FileError → String
  | absent => "No such file or directory (os error 2)"
  | occupied => "File exists (os error 17)"
  | notFolder => "Not a directory (os error 20)"
  | isFolder => "Is a directory (os error 21)"
  | nameTooLong => "File name too long (os error 36)"
  | notText => "stream did not contain valid UTF-8"

/-- A file, or a folder with what it holds. -/
inductive Node where
  | file (content : ByteArray)
  /-- The names in a folder are distinct; their order means nothing. -/
  | folder (entries : List (String × Node))

namespace Node

def emptyFolder : Node := folder []

def isFolder : Node → Bool
  | file _ => false
  | folder _ => true

def content? : Node → Option ByteArray
  | file content => some content
  | folder _ => none

def entries : Node → List (String × Node)
  | file _ => []
  | folder entries => entries

/-- What is at a place. -/
def at? (n : Node) : List String → Option Node
  | [] => some n
  | name :: rest =>
    match Entries.get? n.entries name with
    | none => none
    | some child => child.at? rest

/-- Puts something at a place. Folders on the way that are missing are made; below a file there is
no place, and nothing changes. -/
def put (n : Node) (new : Node) : List String → Node
  | [] => new
  | name :: rest =>
    match n with
    | file content => file content
    | folder entries =>
      let child := (Entries.get? entries name).getD emptyFolder
      folder (Entries.put entries name (child.put new rest))

/-- The content of the file at a place. -/
def contentAt? (n : Node) (place : List String) : Option ByteArray :=
  (n.at? place).bind content?

end Node

/-- A tree and the place of the working folder. -/
structure Files where
  root : Node
  here : List String

namespace Files

/-- No name has more bytes. -/
def nameLimit : Nat := 255

/-- No path has more bytes. -/
def pathLimit : Nat := 4095

/-- One name further. The place before has to be a folder; the place after need not exist. -/
def step (files : Files) (place : List String) (name : String) : Except FileError (List String) :=
  match files.root.at? place with
  | none => .error .absent
  | some (.file _) => .error .notFolder
  | some (.folder _) =>
    if name = "." then .ok place
    else if name = ".." then .ok place.dropLast
    else if name.utf8ByteSize > nameLimit then .error .nameTooLong
    else .ok (place ++ [name])

/-- The place a path leads to; there may be nothing at it. -/
def place (files : Files) (path : String) : Except FileError (List String) :=
  if path.isEmpty then .error .absent
  else if path.utf8ByteSize > pathLimit then .error .nameTooLong
  else (Path.names path).foldlM files.step (if Path.isAbsolute path then [] else files.here)

/-- What a path leads to. -/
def node (files : Files) (path : String) : Except FileError Node := do
  let place ← files.place path
  match files.root.at? place with
  | none => .error .absent
  | some (.file content) =>
    if Path.endsInSlash path then .error .notFolder else return .file content
  | some (.folder entries) => return .folder entries

/-- Whether a path leads to a folder. -/
def isFolder (files : Files) (path : String) : Bool :=
  match files.node path with
  | .ok n => n.isFolder
  | .error _ => false

/-- The content of a file as text. -/
def readText (files : Files) (path : String) : Except FileError String := do
  match ← files.node path with
  | .folder _ => .error .isFolder
  | .file content =>
    match String.fromUTF8? content with
    | some text => return text
    | none => .error .notText

/-- Makes a folder in a folder that exists. -/
def makeFolder (files : Files) (path : String) : Except FileError Files := do
  let place ← files.place path
  match files.root.at? place with
  | some _ => .error .occupied
  | none => return { files with root := files.root.put .emptyFolder place }

/-- Makes a folder and what it lies in, from the nearest folder that exists; `paths` are those
folders, the nearest first. A folder that is there already is no error, and what was made before an
error stays. -/
def makeFolders (files : Files) : (paths : List String) → Except FileError Unit × Files
  | [] => (.ok (), files)
  | path :: above =>
    match files.makeFolder path with
    | .ok made => (.ok (), made)
    | .error .absent =>
      match files.makeFolders above with
      | (.error e, files) => (.error e, files)
      | (.ok (), files) =>
        match files.makeFolder path with
        | .ok made => (.ok (), made)
        | .error e => (if files.isFolder path then .ok () else .error e, files)
    | .error e => (if files.isFolder path then .ok () else .error e, files)

/-- Writes a file in a folder that exists, over what the file held. -/
def writeText (files : Files) (path text : String) : Except FileError Files := do
  let place ← files.place path
  match files.root.at? place with
  | some (.folder _) => .error .isFolder
  | _ =>
    if Path.endsInSlash path then .error .isFolder
    else return { files with root := files.root.put (.file text.toUTF8) place }

end Files

end Exemplar

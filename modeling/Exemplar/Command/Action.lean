import Exemplar.Files.Tree
import Exemplar.Filter.Selection
import Exemplar.Glob.Pattern

/-! What a job does, step by step: it reads its sources, prints, makes folders and writes files. A step
that fails ends the job, and what was done before stays done. -/
namespace Exemplar.Command

/-- Where the text of an input is found. -/
inductive Source where
  | standardInput
  | file (path : String)
  deriving DecidableEq

/-- What messages call a source. -/
def Source.label : Source → String
  | standardInput => "<stdin>"
  | file path => path

/-- Why a job fails. -/
inductive Failure where
  | badPattern (pattern : String) (error : Glob.PatternError)
  | nothingMatches (pattern : String)
  | unreadable (source : Source) (error : FileError)
  | blank (source : Source)
  | notJson (source : Source) (error : Json.ParseError)
  | notSelected (source : Source) (error : SelectionError)
  | noClasses
  | folderNotMade (path : String) (error : FileError)
  | notWritten (path : String) (error : FileError)

/-- What a selection error goes back to, if it goes back to anything. -/
def selectionCause : SelectionError → List String
  | .notJson _ reason => [reason.detail]
  | _ => []

/-- What failed, followed by the causes, the nearest first. -/
def Failure.chain : Failure → List String
  | badPattern pattern e => ["bad glob pattern: " ++ pattern, e.message]
  | nothingMatches pattern => ["glob pattern matched no files: " ++ pattern]
  | unreadable .standardInput e => ["failed to read stdin", e.message]
  | unreadable (.file path) e => ["failed to read " ++ path, e.message]
  | blank source => ["no content in " ++ source.label]
  | notJson source e => ["failed to parse " ++ source.label, e.message, e.detail]
  | notSelected source e =>
    ("failed to pre-process " ++ source.label) :: e.message :: selectionCause e
  | noClasses => ["no classes could be inferred (the input has no JSON object)"]
  | folderNotMade path e => ["failed to create " ++ path, e.message]
  | notWritten path e => ["failed to write " ++ path, e.message]

def Failure.message (f : Failure) : String :=
  ": ".intercalate f.chain

/-- What a job finds and leaves. -/
structure World where
  /-- The standard input that is still to be read. -/
  input : ByteArray
  /-- What was printed so far. -/
  printed : String
  files : Files

/-- A part of a job: its answer or its failure, and the world after it. -/
abbrev Action (α : Type) := ExceptT Failure (StateM World) α

namespace Action
variable {α : Type}

/-- The answer of an action that starts in a world, and the world after it. -/
def runIn (a : Action α) (world : World) : Except Failure α × World :=
  StateT.run (ExceptT.run a) world

/-- An answer or a failure that is known already. -/
def ofResult (result : Except Failure α) : Action α :=
  ExceptT.mk (pure result)

/-- The text of a source. The standard input is read to its end, so it has a text only once. -/
def readText (source : Source) : Action String := do
  let world ← get
  match source with
  | .file path => ofResult ((world.files.readText path).mapError (.unreadable source))
  | .standardInput =>
    set { world with input := .empty }
    match String.fromUTF8? world.input with
    | some text => return text
    | none => throw (.unreadable source .notText)

def print (text : String) : Action Unit :=
  modify fun world => { world with printed := world.printed ++ text }

/-- Makes a folder and what it lies in; the folder comes first. -/
def makeFolders (folders : List String) : Action Unit := do
  let world ← get
  let (made, files) := world.files.makeFolders folders
  set { world with files := files }
  ofResult (made.mapError (.folderNotMade (folders.headD "")))

/-- Writes a file as a whole or not at all. -/
def writeText (path text : String) : Action Unit := do
  let world ← get
  let files ← ofResult ((world.files.writeText path text).mapError (.notWritten path))
  set { world with files := files }

end Action

end Exemplar.Command

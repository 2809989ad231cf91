import Exemplar.Command.Run

/-! The program: loads the part of the tree of files that a job looks at, runs the job on it, and
writes what the job changed. -/
namespace Exemplar.Main

/-- What is left in a stream, after `start`. -/
partial def readAll (stream : IO.FS.Stream) (start : ByteArray) : IO ByteArray := do
  let more ← stream.read 65536
  if more.isEmpty then return start else readAll stream (start ++ more)

/-- What an entry is; a folder with all that it holds if `deep`, and empty otherwise. -/
partial def load (deep : Bool) (entry : IO.FS.DirEntry) : IO (Option Node) := do
  try
    if ← entry.path.isDir then
      let held ← if deep then entry.path.readDir else pure #[]
      let nodes ← held.toList.mapM fun e => do return (← load deep e).map (e.fileName, ·)
      return some (.folder (nodes.filterMap id))
    else
      return some (.file (← IO.FS.readBinFile entry.path))
  catch _ => return none

/-- Loads what is on the way to a path, and at its end what it leads to. -/
def loadPath (deep : Bool) (files : Files) (path : String) : IO Files := do
  let here ← IO.currentDir
  let mut files := files
  for step in Path.steps path do
    let last := step == (Path.steps path).getLast?.getD ""
    match files.place step with
    | .error _ => return files
    | .ok place =>
      if (files.root.at? place).isNone || (deep && last) then
        match ← load (deep && last) ⟨here, step⟩ with
        | none => return files
        | some node => files := { files with root := files.root.put node place }
  return files

/-- Loads what an input may stand for. -/
def loadInput (files : Files) (input : String) : IO Files :=
  if input = "-" then return files
  else if Command.isPattern input then loadPath true files (Glob.startFolder input)
  else loadPath false files input

/-- The files that a job looks at. -/
def filesOf (job : Command.Job) : IO Files := do
  let here := Path.names (toString (← IO.currentDir))
  let files ← job.inputs.foldlM loadInput ⟨Node.emptyFolder.put .emptyFolder here, here⟩
  match job.out with
  | none => return files
  | some path => loadPath false files path

/-- Makes the folders of a path that are in the tree, and writes the file at it if that is new. -/
def store (files : Files) (path : String) (written : Bool) : IO Unit := do
  for folder in (Path.folders path).reverse do
    if files.isFolder folder then IO.FS.createDirAll folder
  if written then
    if let .ok (.file content) := files.node path then IO.FS.writeBinFile path content

end Exemplar.Main

open Exemplar in
def main (arguments : List String) : IO UInt32 := do
  let job? : Option Command.Job :=
    match Command.Request.ofArguments arguments with
    | .run job => some job
    | _ => none
  let files ← match job? with
    | some job => Main.filesOf job
    | none => pure ⟨.emptyFolder, []⟩
  let input ←
    if job?.any (·.inputs.contains "-") then Main.readAll (← IO.getStdin) .empty else pure .empty
  let outcome := Command.run arguments input files
  if let some path := job?.bind (·.out) then Main.store outcome.files path (outcome.exitCode = 0)
  IO.print outcome.stdout
  IO.eprint outcome.stderr
  return outcome.exitCode.toUInt32

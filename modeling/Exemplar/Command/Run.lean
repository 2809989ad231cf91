import Exemplar.Command.Arguments
import Exemplar.Command.Documents
import Exemplar.Inference.Session
import Exemplar.Json.Printer

/-! What a command line does: the texts it prints, its exit code, and the files after it.

The whole output is known before anything is written, so a command that fails prints nothing and
leaves every file as it was. -/
namespace Exemplar.Command

/-- What is left of a run. -/
structure Outcome where
  exitCode : Nat
  stdout : String
  stderr : String
  files : Files

def versionText : String := "json-classgen 0.1.0\n"

def helpText : String :=
  "infer classes from JSON documents and emit type declarations\n\n" ++
  "Usage: json-classgen [OPTIONS] <COMMAND>\n\n" ++
  "Commands:\n" ++
  "  rust    emit serde-annotated Rust structs\n" ++
  "  csharp  emit System.Text.Json-annotated C# classes\n" ++
  "  model   print the inferred class model as JSON (debug view)\n" ++
  "  help    Print this message or the help of the given subcommand(s)\n\n" ++
  "Options:\n" ++
  "  -v, --verbose...  more logging on stderr (-v info, -vv debug, -vvv trace); RUST_LOG wins\n" ++
  "  -h, --help        Print help\n" ++
  "  -V, --version     Print version\n"

/-- The text that a product has for the documents. -/
def Product.text (product : Product) (rootType : String) (documents : List Json.Value) :
    Except Failure String :=
  match product with
  | declarations target =>
    match target.file [Model.ofValues rootType documents] with
    | "" => .error .noClasses
    | text => .ok text
  | model perDocument =>
    let view :=
      if perDocument then
        .array (documents.map fun document => (Model.ofValues rootType [document]).toJson)
      else (Model.ofValues rootType documents).toJson
    .ok (view.pretty 0 ++ "\n")

/-- The text that a job is to write. All its inputs are looked up before the first is read. -/
def Job.text (job : Job) : Action String := do
  let world ← get
  let sources ← Action.ofResult (sources world.files job.inputs)
  let documents ← documents job.pointer job.filter sources
  Action.ofResult (job.product.text job.rootType documents)

/-- Writes a text to a path, in folders that are made for it. -/
def save (path text : String) : Action Unit := do
  Action.makeFolders (Path.folders path)
  Action.writeText path text

/-- All that a job does. -/
def Job.action (job : Job) : Action Unit := do
  let text ← job.text
  match job.out with
  | none => Action.print text
  | some path => save path text

/-- Runs a command line. The exit code is 2 if the arguments are unusable and 1 if the job fails. -/
def run (arguments : List String) (standardInput : ByteArray) (files : Files) : Outcome :=
  match Request.ofArguments arguments with
  | .help => ⟨0, helpText, "", files⟩
  | .version => ⟨0, versionText, "", files⟩
  | .unusable e => ⟨2, "", "error: " ++ e.message ++ "\n", files⟩
  | .run job =>
    match job.action.runIn ⟨standardInput, "", files⟩ with
    | (.ok (), world) => ⟨0, world.printed, "", world.files⟩
    | (.error e, world) => ⟨1, world.printed, "error: " ++ e.message ++ "\n", world.files⟩

end Exemplar.Command

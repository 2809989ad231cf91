import Exemplar.Command.Action
import Exemplar.Glob.Expansion
import Exemplar.Unicode.WhiteSpace

/-! From the inputs of a command to the documents that inference gets to see.

All inputs are looked up before the first is read. They are then read one by one, and each is parsed
and selected from before the next is read. -/
namespace Exemplar.Command

/-- Whether an input is meant as a pattern. -/
def isPattern (input : String) : Bool :=
  input.toList.any (· ∈ ['*', '?', '[', '\x7b'])

/-- The sources an input stands for. -/
def sourcesOf (files : Files) (input : String) : Except Failure (List Source) :=
  if input = "-" then .ok [.standardInput]
  else if isPattern input then
    match Glob.expand files input with
    | .error e => .error (.badPattern input e)
    | .ok [] => .error (.nothingMatches input)
    | .ok paths => .ok (paths.map .file)
  else .ok [.file input]

/-- The sources of all inputs, in order. -/
def sources (files : Files) (inputs : List String) : Except Failure (List Source) :=
  return (← inputs.mapM (sourcesOf files)).flatten

/-- The documents in the text of a source. -/
def documentsOf (pointer filter : Option String) (source : Source) (text : String) :
    Except Failure (List Json.Value) :=
  if text.toList.all Unicode.isBlank then .error (.blank source)
  else
    match Json.Value.read text with
    | .error e => .error (.notJson source e)
    | .ok document =>
      match select pointer filter document with
      | .error e => .error (.notSelected source e)
      | .ok documents => .ok documents

/-- The documents of all sources, in order. -/
def documents (pointer filter : Option String) : List Source → Action (List Json.Value)
  | [] => return []
  | source :: rest => do
    let text ← Action.readText source
    let first ← Action.ofResult (documentsOf pointer filter source text)
    return first ++ (← documents pointer filter rest)

end Exemplar.Command

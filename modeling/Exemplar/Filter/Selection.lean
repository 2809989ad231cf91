import Exemplar.Filter.Standard
import Exemplar.Json.Pointer

/-! The documents that are taken from an input: the part at a pointer, and what a filter makes of
it. -/
namespace Exemplar

inductive SelectionError where
  | noMatch (pointer : String)
  | invalidFilter
  | undefinedNames (program : String) (names : List Filter.Undefined)
  /-- An output that is no value but a fault. -/
  | failed (program : String)
  /-- An output whose text is not a JSON document. -/
  | notJson (text : String) (reason : Json.ParseError)

def SelectionError.message : SelectionError → String
  | noMatch pointer => "JSON pointer `" ++ pointer ++ "` does not match anything"
  | invalidFilter => "jq parse error: the filter is not well formed"
  | undefinedNames program names =>
    "\n".intercalate (names.map fun name => "jq: undefined " ++ name.text ++ " in `" ++ program ++ "`")
  | failed program => "jq filter `" ++ program ++ "` failed"
  | notJson text _ => "jq produced a value that is not JSON: " ++ text

namespace Filter

/-- Evaluation goes no deeper than this. -/
def depthLimit : Nat := 500000

/-- The document an output of a program stands for. -/
def document (program : String) : Result Datum → Except SelectionError Json.Value
  | .error _ => .error (.failed program)
  | .ok v =>
    match Json.Value.read v.text with
    | .ok document => .ok document
    | .error reason => .error (.notJson v.text reason)

/-- The outputs up to the first that is no document, which decides. -/
def documents (program : String) : Outputs → Except SelectionError (List Json.Value)
  | .nil => .ok []
  | .cons x tail => do
    let first ← document program x
    let rest ← documents program (tail ())
    return first :: rest

/-- The outputs of a program for an input. -/
def run (program : String) (input : Json.Value) : Except SelectionError (List Json.Value) :=
  match Term.ofProgram program with
  | none => .error .invalidFilter
  | some t =>
    match Standard.names.undefined t with
    | [] => documents program (Evaluate.eval depthLimit Standard.scope t (.ofJson input))
    | names => .error (.undefinedNames program names)

end Filter

/-- The documents of an input, each of which inference gets to see. -/
def select (pointer filter : Option String) (input : Json.Value) :
    Except SelectionError (List Json.Value) := do
  let part ←
    match pointer with
    | none => .ok input
    | some p =>
      match Json.Pointer.resolve? p input with
      | some part => .ok part
      | none => .error (.noMatch p)
  match filter with
  | none => return [part]
  | some program => Filter.run program part

end Exemplar

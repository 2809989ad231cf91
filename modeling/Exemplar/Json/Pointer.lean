import Exemplar.Dict
import Exemplar.Json.Value
import Exemplar.Naming.Words

/-! Pointers into a document: each step is a key or an index after a slash. In a step `~1` stands for
a slash and `~0` for a tilde. -/
namespace Exemplar.Json.Pointer

def unescape : List Char → List Char
  | '~' :: '1' :: rest => '/' :: unescape rest
  | '~' :: '0' :: rest => '~' :: unescape rest
  | c :: rest => c :: unescape rest
  | [] => []

/-- The steps of a pointer; the empty pointer has none, any other starts with a slash. -/
def steps? (pointer : String) : Option (List String) :=
  match pointer.toList with
  | [] => some []
  | '/' :: rest => some ((Naming.split '/' rest).map fun step => String.ofList (unescape step))
  | _ => none

/-- An index has digits alone, and no zero before others. -/
def index? (step : String) : Option Nat :=
  match step.toList with
  | [] => none
  | '0' :: _ :: _ => none
  | digits =>
    if digits.all Char.isDigit then
      some (digits.foldl (fun n c => n * 10 + (c.toNat - '0'.toNat)) 0)
    else none

/-- The part of a value that a step leads to. -/
def child? (step : String) : Value → Option Value
  | .object members => Entries.get? members step
  | .array items => (index? step).bind (items[·]?)
  | _ => none

/-- The part of a document that a pointer leads to. -/
def resolve? (pointer : String) (document : Value) : Option Value := do
  (← steps? pointer).foldlM (fun value step => child? step value) document

end Exemplar.Json.Pointer

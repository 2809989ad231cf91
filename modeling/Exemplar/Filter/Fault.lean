import Exemplar.Filter.Datum
import Exemplar.Filter.Outputs

/-! What a filter can yield instead of a value. -/
namespace Exemplar.Filter

inductive MathOp where
  | add
  | sub
  | mul
  | div
  | rem
  deriving DecidableEq

def MathOp.symbol : MathOp → String
  | add => "+"
  | sub => "-"
  | mul => "*"
  | div => "/"
  | rem => "%"

inductive Fault where
  /-- A value raised by the program itself. -/
  | raised (v : Datum)
  | notIndexable (v index : Datum)
  /-- A value of the wrong kind; the kind wanted is named. -/
  | notUsable (v : Datum) (kind : String)
  | notCalculable (l : Datum) (op : MathOp) (r : Datum)
  | outOfBounds (index : Int)
  /-- An update of something that is no path. -/
  | notPath
  | failed (message : String)
  /-- Leaves the label of this number. -/
  | leave (label : Nat)
  /-- Evaluation went too deep. -/
  | exhausted

/-- The value that a handler is given; leaving a label cannot be handled. -/
def Fault.value? : Fault → Option Datum
  | raised v => some v
  | notIndexable v i => some (.string ("cannot index " ++ v.text ++ " with " ++ i.text))
  | notUsable v kind => some (.string ("cannot use " ++ v.text ++ " as " ++ kind))
  | notCalculable l op r =>
    some (.string ("cannot calculate " ++ l.text ++ " " ++ op.symbol ++ " " ++ r.text))
  | outOfBounds i => some (.string ("index " ++ toString i ++ " out of bounds"))
  | notPath => some (.string "invalid path expression")
  | failed message => some (.string message)
  | leave _ => none
  | exhausted => none

abbrev Result (α : Type) := Except Fault α

abbrev Outputs := Lazy (Result Datum)

namespace Outputs

def value (v : Datum) : Outputs :=
  .one (.ok v)

def fault (e : Fault) : Outputs :=
  .one (.error e)

/-- Hands on the values and keeps the faults where they are. -/
def andThen {α β : Type} (xs : Lazy (Result α)) (f : α → Lazy (Result β)) : Lazy (Result β) :=
  xs.bind fun
    | .ok x => f x
    | .error e => .one (.error e)

/-- Maps the values by a function that can fail. -/
def mapValues {α β : Type} (xs : Lazy (Result α)) (f : α → Result β) : Lazy (Result β) :=
  xs.map fun x => x >>= f

/-- Each result of the first with each of the second. A fault on the left shows only in a pair, so
without a result on the right there is none. -/
def pairs {α β γ : Type} (f : α → β → Result γ) (xs : Lazy (Result α)) (ys : Unit → Lazy (Result β)) :
    Lazy (Result γ) :=
  xs.bind fun x => (ys ()).map fun y => do f (← x) (← y)

/-- All the values, or the first fault. -/
def collect {α : Type} : Lazy (Result α) → Result (List α)
  | .nil => .ok []
  | .cons x tail => do
    let x ← x
    let rest ← collect (tail ())
    return x :: rest

/-- The first output. -/
def first {α : Type} (xs : Lazy (Result α)) : Result (Option α) :=
  match xs with
  | .nil => .ok none
  | .cons x _ => x.map some

/-- Every state reached by taking the values in order, each from every state before it. -/
def fold {α : Type} (step : α → Datum → Outputs) : Lazy (Result α) → Datum → Outputs
  | .nil, state => value state
  | .cons (.error e) _, _ => fault e
  | .cons (.ok x) tail, state => andThen (step x state) (fold step (tail ()))

/-- As `fold`, with what `emit` makes of each state on the way. -/
def foldEach {α : Type} (step : α → Datum → Outputs) (emit : α → Datum → Outputs) :
    Lazy (Result α) → Datum → Outputs
  | .nil, _ => .nil
  | .cons (.error e) _, _ => fault e
  | .cons (.ok x) tail, state =>
    andThen (step x state) fun next =>
      (emit x next).append fun _ => foldEach step emit (tail ()) next

end Outputs

end Exemplar.Filter

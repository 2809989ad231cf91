import Exemplar.Filter.Builtin
import Exemplar.Filter.Scope

/-! Evaluation. `eval` yields the outputs of a term for an input; `update` takes a term as the places
of the input that it selects and changes what is there. Where a term has several parts with several
outputs each, the part on the left varies slowest.

Evaluation is cut off at a depth, which only programs without end reach. -/
namespace Exemplar.Filter

/-- A name in force, with its meaning. -/
inductive Binding where
  | value (name : String) (v : Datum)
  | definition (d : Definition)
  /-- The argument of a filter, with the names in force where it was given. -/
  | closure (name : String) (body : Term) (scope : List Binding)
  | label (name : String) (id : Nat)

namespace Binding

def valueOf? (name : String) : List Binding → Option Datum
  | [] => none
  | .value n v :: rest => if n = name then some v else valueOf? name rest
  | _ :: rest => valueOf? name rest

def label? (name : String) : List Binding → Option Nat
  | [] => none
  | .label n id :: rest => if n = name then some id else label? name rest
  | _ :: rest => label? name rest

/-- The filter of a name: a term with the names in force for it, and the parameters it takes. A
definition is in force in its own body. -/
def filter? (name : String) (arity : Nat) : List Binding → Option (List String × Term × List Binding)
  | [] => none
  | .definition d :: rest =>
    if d.name = name ∧ d.parameters.length = arity then
      some (d.parameters, d.body, .definition d :: rest)
    else filter? name arity rest
  | .closure n body scope :: rest =>
    if n = name ∧ arity = 0 then some ([], body, scope) else filter? name arity rest
  | _ :: rest => filter? name arity rest

end Binding

namespace Comparison

def holds : Comparison → Ordering → Bool
  | equal, o => o == .eq
  | different, o => o != .eq
  | less, o => o == .lt
  | atMost, o => o != .gt
  | greater, o => o == .gt
  | atLeast, o => o != .lt

end Comparison

namespace Datum

mutual
/-- The value and all values in it, each before its parts. -/
def everything : Datum → List Datum
  | array items => array items :: everythingIn items
  | object members => object members :: everythingUnder members
  | v => [v]

def everythingIn : List Datum → List Datum
  | [] => []
  | v :: rest => everything v ++ everythingIn rest

def everythingUnder : List (String × Datum) → List Datum
  | [] => []
  | (_, v) :: rest => everything v ++ everythingUnder rest
end

end Datum

namespace Evaluate
open Outputs

/-- The texts of pieces, given the outputs of their holes. -/
def texts (outputs : Term → Outputs) : List Piece → Lazy (Result String)
  | [] => .one (.ok "")
  | .verbatim text :: rest => mapValues (texts outputs rest) fun more => .ok (text ++ more)
  | .hole t :: rest =>
    pairs (fun v more => .ok (Builtin.toText v ++ more)) (outputs t) fun _ => texts outputs rest

/-- A member of an object, if the key is a text. -/
def member (key v : Datum) : Result (String × Datum) :=
  match key with
  | .string name => .ok (name, v)
  | other => .error (.notUsable other "string")

/-- The members of objects, one for each key and value written. -/
def memberLists (outputs : Term → Outputs) :
    List (Term × Term) → Lazy (Result (List (String × Datum)))
  | [] => .one (.ok [])
  | (k, t) :: rest =>
    pairs (fun m more => .ok (m :: more)) (pairs member (outputs k) fun _ => outputs t) fun _ =>
      memberLists outputs rest

/-- The object with the given members; a key that comes again takes the last value. -/
def objectOf (members : List (String × Datum)) : Datum :=
  .object (members.foldl (fun all m => Entries.put all m.1 m.2) [])

def accesses (outputs : Term → Outputs) : List (Part × Bool) → Lazy (Result (List (Access × Bool)))
  | [] => .one (.ok [])
  | (part, optional) :: rest =>
    let found : Lazy (Result Access) :=
      match part with
      | .each => .one (.ok .each)
      | .index t => mapValues (outputs t) fun i => .ok (.index i)
      | .slice none none => .one (.ok .each)
      | .slice (some t) none => mapValues (outputs t) fun i => .ok (.slice (some i) none)
      | .slice none (some t) => mapValues (outputs t) fun i => .ok (.slice none (some i))
      | .slice (some t) (some u) =>
        pairs (fun i j => .ok (.slice (some i) (some j))) (outputs t) fun _ => outputs u
    pairs (fun access more => .ok ((access, optional) :: more)) found fun _ => accesses outputs rest

/-- The values of several arguments. -/
def tuples (outputs : Term → Outputs) : List Term → Lazy (Result (List Datum))
  | [] => .one (.ok [])
  | t :: rest =>
    andThen (outputs t) fun v => mapValues (tuples outputs rest) fun more => .ok (v :: more)

/-- The outputs before the first fault, and in place of the rest what the handler makes of it. -/
def handled (handler : Datum → Outputs) : Outputs → Outputs
  | .nil => .nil
  | .cons (.ok v) tail => .cons (.ok v) fun _ => handled handler (tail ())
  | .cons (.error e) _ =>
    match e.value? with
    | some v => handler v
    | none => fault e

/-- The outputs before the first that leaves the label. -/
def untilLeft (id : Nat) (xs : Outputs) : Outputs :=
  xs.takeUntil fun
    | .error (.leave other) => other == id
    | _ => false

/-- Values from `v` on by the same step, as long as they are wanted and at most so many. -/
def progression (wanted : Datum → Bool) (step : Datum) : Nat → Datum → Outputs
  | 0, _ => .nil
  | count + 1, v =>
    if wanted v then
      .cons (.ok v) fun _ =>
        match Datum.math .add v step with
        | .ok next => progression wanted step count next
        | .error e => fault e
    else .nil

/-- The numbers from one to another. -/
def range (start stop step : Datum) : Outputs :=
  let wanted (v : Datum) : Bool :=
    match step.order (.int 0) with
    | .gt => v.order stop == .lt
    | .lt => v.order stop == .gt
    | .eq => v.order stop != .eq
  progression wanted step (Nat.pow 2 64) start

/-- The items of an array, each with its key. -/
def keyed (key : Datum → Outputs) (v : Datum) : Result (List (Datum × Datum)) :=
  match v with
  | .array items => items.mapM fun x => do return (.array (← collect (key x)), x)
  | _ => .error (.notUsable v "array")

/-- The items with their keys; the keys of a single item are not needed and not computed. -/
def keyedToSort (key : Datum → Outputs) (v : Datum) : Result (List (Datum × Datum)) :=
  match v with
  | .array [x] => .ok [(.null, x)]
  | _ => keyed key v

def sortKeyed (items : List (Datum × Datum)) : List (Datum × Datum) :=
  items.mergeSort fun a b => a.1.atMost b.1

def groups (items : List (Datum × Datum)) : List Datum :=
  ((sortKeyed items).splitBy fun a b => a.1.equal b.1).map fun g => .array (g.map Prod.snd)

/-- The first of the least items, or null. -/
def least (items : List (Datum × Datum)) : Datum :=
  match items with
  | [] => .null
  | first :: rest => (rest.foldl (fun m x => if x.1.order m.1 == .lt then x else m) first).2

/-- The last of the greatest items, or null. -/
def greatest (items : List (Datum × Datum)) : Datum :=
  match items with
  | [] => .null
  | first :: rest => (rest.foldl (fun m x => if x.1.order m.1 == .lt then m else x) first).2

/-- Changes the places that a fold ends at: those that the step selects for the first value, in them
those that it selects for the next, and so on. -/
def foldPlaces {α : Type} (within : α → (Datum → Outputs) → Datum → Outputs) (f : Datum → Outputs) :
    Lazy (Result α) → Datum → Outputs
  | .nil => f
  | .cons (.error e) _ => fun _ => fault e
  | .cons (.ok x) tail => within x fun state => foldPlaces within f (tail ()) state

/-- As `foldPlaces`, with a change made at each place on the way before the places in it. -/
def foldEachPlace {α : Type} (within : α → (Datum → Outputs) → Datum → Outputs)
    (change : α → Datum → Outputs) : Lazy (Result α) → Datum → Outputs
  | .nil => value
  | .cons (.error e) _ => fun _ => fault e
  | .cons (.ok x) tail =>
    within x fun state => andThen (change x state) fun y => foldEachPlace within change (tail ()) y

/-- How many outputs to take or leave. -/
def count (v : Datum) : Result Nat :=
  match v with
  | .int n => .ok n.toNat
  | _ => .error (.notUsable v "integer")

def last? : Lazy (Result Datum) → Option (Result Datum) → Option (Result Datum)
  | .nil, found => found
  | .cons (.error e) _, _ => some (.error e)
  | .cons (.ok v) tail, _ => last? (tail ()) (some (.ok v))

/-- The filters that take their arguments as filters and not as values. -/
def special : List (String × Nat) :=
  [("first", 1), ("last", 1), ("limit", 2), ("skip", 2), ("range", 3), ("sort_by", 1),
    ("group_by", 1), ("min_by", 1), ("max_by", 1)]

/-- The outputs of a filter that is not defined by others. -/
def builtin (outputs : Term → Datum → Outputs) (name : String) (arguments : List Term) (v : Datum) :
    Outputs :=
  match name, arguments with
  | "first", [f] => (outputs f v).take 1
  | "last", [f] =>
    match last? (outputs f v) none with
    | some x => .one x
    | none => .nil
  | "limit", [n, f] =>
    andThen (mapValues (outputs n v) count) fun n => (outputs f v).take n
  | "skip", [n, f] =>
    andThen (mapValues (outputs n v) count) fun n => (outputs f v).drop n
  | "range", [a, b, c] =>
    andThen (tuples (outputs · v) [a, b, c]) fun
      | [start, stop, step] => range start stop step
      | _ => .nil
  | "sort_by", [f] =>
    .one ((keyedToSort (outputs f) v).map fun items => .array ((sortKeyed items).map Prod.snd))
  | "group_by", [f] => .one ((keyed (outputs f) v).map fun items => .array (groups items))
  | "min_by", [f] => .one ((keyed (outputs f) v).map least)
  | "max_by", [f] => .one ((keyed (outputs f) v).map greatest)
  | _, _ =>
    match Builtin.find? name arguments.length with
    | some b => mapValues (tuples (outputs · v) arguments) fun values => b.run values v
    | none => fault (.failed (name ++ " is not defined"))

mutual
def eval : Nat → List Binding → Term → Datum → Outputs
  | 0, _, _, _ => fault .exhausted
  | depth + 1, scope, t, v =>
    let outputs (t : Term) : Outputs := eval depth scope t v
    match t with
    | .identity => value v
    | .recurse => Lazy.ofList (v.everything.map .ok)
    | .number spelling => value (Datum.ofSpelling spelling)
    | .text pieces => mapValues (texts outputs pieces) fun text => .ok (.string text)
    | .array none => value (.array [])
    | .array (some t) => .one ((collect (outputs t)).map .array)
    | .object members => mapValues (memberLists outputs members) fun found => .ok (objectOf found)
    | .negate t => mapValues (outputs t) Datum.negate
    | .pipe l r => andThen (outputs l) (eval depth scope r)
    | .bindAs source pattern body =>
      andThen (outputs source) fun x =>
        andThen (takeApart depth scope pattern x) fun scope => eval depth scope body v
    | .comma l r => (outputs l).append fun _ => outputs r
    | .orElse l r =>
      let found := (outputs l).filter fun
        | .ok x => x.isTrue
        | .error _ => true
      match found with
      | .nil => outputs r
      | _ => found
    | .logic stop l r =>
      andThen (outputs l) fun x =>
        if x.isTrue == stop then value (.bool stop)
        else mapValues (outputs r) fun y => .ok (.bool y.isTrue)
    | .compare op l r =>
      pairs (fun x y => .ok (.bool (op.holds (x.order y)))) (outputs l) fun _ => outputs r
    | .math op l r => pairs (Datum.math op) (outputs l) fun _ => outputs r
    | .assign target t =>
      andThen (outputs t) fun x => update depth scope target (fun _ => value x) v
    | .update target change => update depth scope target (eval depth scope change) v
    | .updateMath op target t =>
      andThen (outputs t) fun x => update depth scope target (fun y => .one (Datum.math op y x)) v
    | .updateOrElse target t =>
      andThen (outputs t) fun x =>
        update depth scope target (fun y => value (if y.isTrue then y else x)) v
    | .branch condition yes no =>
      andThen (outputs condition) fun x => outputs (if x.isTrue then yes else no)
    | .handle body none => handled (fun _ => .nil) (outputs body)
    | .handle body (some handler) => handled (eval depth scope handler) (outputs body)
    | .fold kind source pattern arguments =>
      let scopes := andThen (outputs source) (takeApart depth scope pattern)
      let step (t : Term) (scope : List Binding) (state : Datum) : Outputs :=
        eval depth scope t state
      match kind, arguments with
      | .reduce, [start, change] => andThen (outputs start) (Outputs.fold (step change) scopes)
      | .each, [start, change] =>
        andThen (outputs start) (foldEach (step change) (fun _ state => value state) scopes)
      | .each, [start, change, emit] =>
        andThen (outputs start) (foldEach (step change) (step emit) scopes)
      | _, _ => fault (.failed (kind.word ++ " is not defined"))
    | .label name body => untilLeft depth (eval depth (.label name depth :: scope) body v)
    | .leave name =>
      match Binding.label? name scope with
      | some id => fault (.leave id)
      | none => fault (.failed (name ++ " is not defined"))
    | .call name arguments =>
      match Binding.filter? name arguments.length scope with
      | some (parameters, body, inner) =>
        andThen (bind depth scope v (parameters.zip arguments) inner) fun inner =>
          eval depth inner body v
      | none => builtin (eval depth scope) name arguments v
    | .variable name =>
      match Binding.valueOf? name scope with
      | some x => value x
      | none => fault (.failed (name ++ " is not defined"))
    | .path head parts =>
      andThen (outputs head) fun x => andThen (accesses outputs parts) fun steps => Access.follow steps x
    | .define d body => eval depth (.definition d :: scope) body v

/-- Puts what a function makes of them in the places of the input that a term selects. -/
def update : Nat → List Binding → Term → (Datum → Outputs) → Datum → Outputs
  | 0, _, _, _, _ => fault .exhausted
  | depth + 1, scope, t, f, v =>
    match t with
    | .identity => f v
    | .recurse => andThen (.one (Datum.changeParts true (update depth scope .recurse f) v)) f
    | .pipe l r => update depth scope l (update depth scope r f) v
    | .bindAs source pattern body =>
      let scopes := andThen (eval depth scope source v) (takeApart depth scope pattern)
      Outputs.fold (fun scope x => update depth scope body f x) scopes v
    | .comma l r => andThen (update depth scope l f v) (update depth scope r f)
    | .orElse l r =>
      let found := (eval depth scope l v).filter fun
        | .ok x => x.isTrue
        | .error _ => true
      update depth scope (if found.head?.isSome then l else r) f v
    | .branch condition yes no =>
      Outputs.fold (fun c x => update depth scope (if c.isTrue then yes else no) f x)
        (eval depth scope condition v) v
    | .fold kind source pattern arguments =>
      let scopes := andThen (eval depth scope source v) (takeApart depth scope pattern)
      let within (t : Term) (scope : List Binding) (f : Datum → Outputs) (state : Datum) : Outputs :=
        update depth scope t f state
      match kind, arguments with
      | .reduce, [start, change] => update depth scope start (foldPlaces (within change) f scopes) v
      | .each, [start, change] =>
        update depth scope start (foldEachPlace (within change) (fun _ => f) scopes) v
      | .each, [start, change, emit] =>
        update depth scope start
          (foldEachPlace (within change) (fun scope => within emit scope f) scopes) v
      | _, _ => fault .notPath
    | .leave name =>
      match Binding.label? name scope with
      | some id => fault (.leave id)
      | none => fault .notPath
    | .call name arguments =>
      match Binding.filter? name arguments.length scope with
      | some (parameters, body, inner) =>
        Outputs.fold (fun inner x => update depth inner body f x)
          (bind depth scope v (parameters.zip arguments) inner) v
      | none => fault (if name = "error" ∧ arguments.isEmpty then .raised v else .notPath)
    | .path head parts =>
      let steps := accesses (eval depth scope · v) parts
      update depth scope head
        (Outputs.fold (fun steps x => .one (Access.changeAt f steps x)) steps) v
    | .define d body => update depth (.definition d :: scope) body f v
    | _ => fault .notPath

/-- The names in force after a value has been taken apart by a pattern. -/
def takeApart : Nat → List Binding → Pattern → Datum → Lazy (Result (List Binding))
  | 0, _, _, _ => .one (.error .exhausted)
  | depth + 1, scope, pattern, v =>
    match pattern with
    | .variable name => .one (.ok (.value name v :: scope))
    | .array items =>
      items.zipIdx.foldl (fun scopes (p, i) =>
        andThen scopes fun scope =>
          andThen (.one (v.index (.int i))) fun x => takeApart depth scope p x) (.one (.ok scope))
    | .object members =>
      members.foldl (fun scopes (k, p) =>
        andThen scopes fun scope =>
          andThen (eval depth scope k v) fun key =>
            andThen (.one (v.index key)) fun x => takeApart depth scope p x) (.one (.ok scope))

/-- The names in force in the body of a filter that is given arguments. -/
def bind : Nat → List Binding → Datum → List (String × Term) → List Binding →
    Lazy (Result (List Binding))
  | 0, _, _, _, _ => .one (.error .exhausted)
  | depth + 1, scope, v, arguments, inner =>
    match arguments with
    | [] => .one (.ok inner)
    | (name, t) :: rest =>
      if name.startsWith "$" then
        andThen (eval depth scope t v) fun x =>
          bind depth scope v rest (.value name x :: inner)
      else bind depth scope v rest (.closure name t scope :: inner)
end

end Evaluate

end Exemplar.Filter

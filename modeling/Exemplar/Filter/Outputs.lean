/-! Lists whose tail is computed only when it is asked for. A filter yields its outputs one by one,
and whoever stops asking leaves the rest unevaluated, errors included. -/
namespace Exemplar.Filter

inductive Lazy (α : Type) where
  | nil
  | cons (head : α) (tail : Unit → Lazy α)

namespace Lazy
variable {α β σ : Type}

instance : Inhabited (Lazy α) := ⟨nil⟩

def one (x : α) : Lazy α :=
  cons x fun _ => nil

def append : Lazy α → (Unit → Lazy α) → Lazy α
  | nil, more => more ()
  | cons x tail, more => cons x fun _ => append (tail ()) more

def bind : Lazy α → (α → Lazy β) → Lazy β
  | nil, _ => nil
  | cons x tail, f => append (f x) fun _ => bind (tail ()) f

def map (f : α → β) : Lazy α → Lazy β
  | nil => nil
  | cons x tail => cons (f x) fun _ => map f (tail ())

def filter (p : α → Bool) : Lazy α → Lazy α
  | nil => nil
  | cons x tail => if p x then cons x fun _ => filter p (tail ()) else filter p (tail ())

def ofList : List α → Lazy α
  | [] => nil
  | x :: rest => cons x fun _ => ofList rest

def toList : Lazy α → List α
  | nil => []
  | cons x tail => x :: toList (tail ())

def head? : Lazy α → Option α
  | nil => none
  | cons x _ => some x

def take : Nat → Lazy α → Lazy α
  | 0, _ => nil
  | _ + 1, nil => nil
  | n + 1, cons x tail => cons x fun _ => take n (tail ())

def drop : Nat → Lazy α → Lazy α
  | 0, xs => xs
  | _ + 1, nil => nil
  | n + 1, cons _ tail => drop n (tail ())

/-- The items before the first that `p` holds of. -/
def takeUntil (p : α → Bool) : Lazy α → Lazy α
  | nil => nil
  | cons x tail => if p x then nil else cons x fun _ => takeUntil p (tail ())

end Lazy

end Exemplar.Filter

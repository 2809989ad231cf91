import Exemplar.Filter.Fault

/-! Filter programs. A term takes one value and yields any number of outputs. -/
namespace Exemplar.Filter

inductive Comparison where
  | equal
  | different
  | less
  | atMost
  | greater
  | atLeast
  deriving DecidableEq

inductive FoldKind where
  | reduce
  | each
  deriving DecidableEq

def FoldKind.word : FoldKind → String
  | reduce => "reduce"
  | each => "foreach"

mutual
inductive Term where
  | identity
  /-- The value and all values in it. -/
  | recurse
  | number (spelling : String)
  | text (pieces : List Piece)
  | array (content : Option Term)
  | object (members : List (Term × Term))
  | negate (t : Term)
  | pipe (l r : Term)
  /-- Each output of the source is taken apart by a pattern. -/
  | bindAs (source : Term) (pattern : Pattern) (body : Term)
  | comma (l r : Term)
  /-- The true outputs of the first, or if there are none the outputs of the second. -/
  | orElse (l r : Term)
  /-- Conjunction, or disjunction if `stop` is true. -/
  | logic (stop : Bool) (l r : Term)
  | compare (op : Comparison) (l r : Term)
  | math (op : MathOp) (l r : Term)
  | assign (target value : Term)
  | update (target change : Term)
  | updateMath (op : MathOp) (target value : Term)
  | updateOrElse (target value : Term)
  | branch (condition yes no : Term)
  | handle (body : Term) (handler : Option Term)
  | fold (kind : FoldKind) (source : Term) (pattern : Pattern) (arguments : List Term)
  | label (name : String) (body : Term)
  | leave (name : String)
  | call (name : String) (arguments : List Term)
  | variable (name : String)
  /-- Parts of each output of the head, each part in the one before it. An optional part is left out
  where there is none. -/
  | path (head : Term) (parts : List (Part × Bool))
  | define (definition : Definition) (body : Term)

/-- A stretch of a text, or a term whose outputs are put in its place. -/
inductive Piece where
  | verbatim (text : String)
  | hole (t : Term)

inductive Part where
  | each
  | index (t : Term)
  | slice (lower upper : Option Term)

inductive Pattern where
  | variable (name : String)
  | array (items : List Pattern)
  | object (members : List (Term × Pattern))

/-- A named filter. A parameter that starts with a dollar sign is a variable as well. -/
inductive Definition where
  | mk (name : String) (parameters : List String) (body : Term)
end

instance : Inhabited Term := ⟨.identity⟩

namespace Definition

def name : Definition → String
  | mk name _ _ => name

def parameters : Definition → List String
  | mk _ parameters _ => parameters

def body : Definition → Term
  | mk _ _ body => body

end Definition

end Exemplar.Filter

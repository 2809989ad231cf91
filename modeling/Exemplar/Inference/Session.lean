import Exemplar.Inference.Shape
import Exemplar.Json.Document
import Exemplar.Naming.Singular

/-! Inference: documents are walked from the top, and every object met is folded into a class. An
object under a key belongs to the class named after the key, the objects of an array to the class
named after the singular of the key.

The first sample wins. The first value other than null fixes the type of a property; a later one
that disagrees is reported and not descended into. A null leaves a placeholder, which the next other
value fills. -/
namespace Exemplar
open Json (Value)

/-- A property whose samples are ambiguous. -/
inductive Warning where
  /-- The items of an array differ in shape. -/
  | mixedArray (className key : String)
  | conflictingSample (className key kept observed : String)
  /-- Arrays in an array; no property is recorded. -/
  | nestedArray (className key : String)
  deriving DecidableEq

def Warning.message : Warning → String
  | mixedArray className key =>
    className ++ "." ++ key ++ ": array mixes element shapes, first sample wins"
  | conflictingSample className key kept observed =>
    className ++ "." ++ key ++ ": saw " ++ observed ++ " but kept " ++ kept
  | nestedArray className key =>
    className ++ "." ++ key ++ ": nested arrays are not inferred, property skipped"

/-- The class of the objects under a key. -/
def classNameFor (key : String) : String :=
  let name := Naming.pascalCase key
  if name.isEmpty then Naming.anonymous else name

/-- What has been learnt so far. -/
structure Session where
  model : Model
  warnings : List Warning
  deriving DecidableEq

/-- The type one value gives to a property. -/
structure Sample where
  dataType : DataType
  isArray : Bool
  deriving DecidableEq

def Sample.text (s : Sample) : String :=
  if s.isArray then s.dataType.text ++ "[]" else s.dataType.text

def Property.sample (p : Property) : Sample :=
  ⟨p.dataType, p.isArray⟩

namespace Session

def empty : Session := ⟨.empty, []⟩

instance : EmptyCollection Session := ⟨empty⟩

def register (s : Session) (className : String) : Session :=
  { s with model := s.model.register className }

def warn (s : Session) (w : Warning) : Session :=
  { s with warnings := s.warnings ++ [w] }

/-- Records a sample of a property. The answer is whether the property now has exactly the type of
the sample, so that the objects of the value belong to the class it names. -/
def record (s : Session) (className key : String) (sample : Sample) : Session × Bool :=
  let s := s.register className
  match s.model.property? className key with
  | none =>
    ({ s with model := s.model.addProperty className key sample.dataType sample.isArray }, true)
  | some p =>
    if p.sample = sample then (s, true)
    else if sample.dataType.isUnknown then (s, false)
    else if p.dataType.isUnknown then
      ({ s with model := s.model.resolve className key sample.dataType sample.isArray }, true)
    else (s.warn (.conflictingSample className key p.sample.text sample.text), false)

section Walk
variable (singular : String → String)

mutual
/-- Folds the members of an object into a class. -/
def foldMembers (className : String) (s : Session) : List (String × Value) → Session
  | [] => s
  | (key, value) :: rest => foldMembers className (foldValue className key s value) rest
termination_by structural members => members

/-- Folds the value of a key into the class that has the key. -/
def foldValue (className key : String) (s : Session) : Value → Session
  | .object members =>
    let inner := classNameFor key
    match s.record className key ⟨.named inner, false⟩ with
    | (s, true) => foldMembers inner (s.register inner) members
    | (s, false) => s
  | .array items =>
    let shape := ArrayShape.inspect items
    let s := if shape.mixed then s.warn (.mixedArray className key) else s
    match shape.kind with
    | .empty => s
    | .scalar dataType => (s.record className key ⟨dataType, true⟩).1
    | .objects =>
      let inner := classNameFor (singular key)
      match s.record className key ⟨.named inner, true⟩ with
      | (s, true) => foldItems inner s items
      | (s, false) => s
    | .nested => s.warn (.nestedArray className key)
  | value => (s.record className key ⟨DataType.ofScalar value, false⟩).1
termination_by structural value => value

/-- Folds the objects among the items of an array into a class. -/
def foldItems (className : String) (s : Session) : List Value → Session
  | [] => s
  | item :: rest => foldItems className (foldItem className s item) rest
termination_by structural items => items

def foldItem (className : String) (s : Session) : Value → Session
  | .object members => foldMembers className (s.register className) members
  | _ => s
termination_by structural item => item
end

/-- Folds a document into the class of a root name: an object, or each object of an array. -/
def observe (s : Session) (root : String) : Value → Session
  | .array items => foldItems singular (classNameFor root) s items
  | value => foldItem singular (classNameFor root) s value

/-- Folds the document that a text stands for. A blank text records nothing. -/
def parse (s : Session) (root text : String) : Except Json.ParseError Session :=
  if text.toList.all Unicode.isBlank then .ok s
  else (Value.read text).map (observe singular s root)

end Walk

/-- The model with every placeholder made a string. -/
def solve (s : Session) : Model :=
  s.model.solve

end Session

/-- The model of one document. -/
def Model.ofText (root text : String) : Except Json.ParseError Model :=
  (Session.parse Naming.singular ∅ root text).map Session.solve

/-- The model of several documents, each a sample of the same root. -/
def Model.ofValues (root : String) (values : List Value) : Model :=
  (values.foldl (fun s v => Session.observe Naming.singular s root v) ∅).solve

end Exemplar

import Exemplar.Model

/-! What a value tells about the type of a property: the kind of a scalar, and the common shape of
the items of an array. -/
namespace Exemplar
open Json (Value)

inductive ScalarKind where
  | string
  | number
  | boolean
  | unknown
  deriving DecidableEq

/-- Nulls and containers are of unknown kind. -/
def ScalarKind.ofValue : Value → ScalarKind
  | .string _ => string
  | .number _ => number
  | .bool _ => boolean
  | _ => unknown

/-- All numbers are integers to the model. -/
def ScalarKind.dataType : ScalarKind → DataType
  | string => .string
  | number => .int
  | boolean => .bool
  | unknown => .unknown

/-- The type of a scalar. -/
def DataType.ofScalar (v : Value) : DataType :=
  (ScalarKind.ofValue v).dataType

inductive ItemShape where
  /-- No items but nulls. -/
  | empty
  | scalar (dataType : DataType)
  | objects
  /-- Arrays in the array. -/
  | nested
  deriving DecidableEq

/-- The shape of a single item that is not null. -/
def ItemShape.ofItem : Value → ItemShape
  | .object _ => objects
  | .array _ => nested
  | v => scalar (DataType.ofScalar v)

structure ArrayShape where
  kind : ItemShape
  /-- Some items have another shape. -/
  mixed : Bool
  deriving DecidableEq

/-- One object makes an array of objects; otherwise the first item that is not null decides. -/
def ArrayShape.inspect (items : List Value) : ArrayShape :=
  match (items.filter (!·.isNull)).map ItemShape.ofItem with
  | [] => ⟨.empty, false⟩
  | first :: rest =>
    { kind := if .objects ∈ first :: rest then .objects else first
      mixed := rest.any (· ≠ first) }

end Exemplar

/-! JSON values. An object is the list of its members in order of arrival; reading keeps its keys
distinct, and a key that comes again keeps its first place and takes the last value. -/
namespace Exemplar.Json

/-- An integer that fits 64 bits stays exact; every other number is a binary64 float. -/
inductive Number where
  | integer (n : Int)
  | real (x : Float)
  deriving DecidableEq

inductive Value where
  | null
  | bool (b : Bool)
  | number (n : Number)
  | string (text : String)
  | array (items : List Value)
  | object (members : List (String × Value))
  deriving Inhabited

namespace Value

def isNull : Value → Bool
  | null => true
  | _ => false

def isObject : Value → Bool
  | object _ => true
  | _ => false

/-- Neither an array nor an object. -/
def isScalar : Value → Bool
  | array _ => false
  | object _ => false
  | _ => true

/-- Properties of values, of members and of items that pass from the parts to the whole. -/
structure Hereditary (V : Value → Prop) (M : List (String × Value) → Prop)
    (I : List Value → Prop) : Prop where
  scalar : ∀ v, v.isScalar → V v
  object : ∀ members, M members → V (.object members)
  array : ∀ items, I items → V (.array items)
  noMembers : M []
  member : ∀ key v rest, V v → M rest → M ((key, v) :: rest)
  noItems : I []
  item : ∀ v rest, V v → I rest → I (v :: rest)

namespace Hereditary
variable {V : Value → Prop} {M : List (String × Value) → Prop} {I : List Value → Prop}

mutual
/-- Induction over a value: what passes from the parts to the whole holds of every value. -/
theorem value (h : Hereditary V M I) : ∀ v, V v
  | .null => h.scalar _ rfl
  | .bool _ => h.scalar _ rfl
  | .number _ => h.scalar _ rfl
  | .string _ => h.scalar _ rfl
  | .array items => h.array items (h.items items)
  | .object members => h.object members (h.members members)

theorem members (h : Hereditary V M I) : ∀ members, M members
  | [] => h.noMembers
  | (key, v) :: rest => h.member key v rest (h.value v) (h.members rest)

theorem items (h : Hereditary V M I) : ∀ items, I items
  | [] => h.noItems
  | v :: rest => h.item v rest (h.value v) (h.items rest)
end

end Hereditary

end Value

end Exemplar.Json

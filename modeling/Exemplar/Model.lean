import Exemplar.Dict
import Exemplar.Json.Value
import Exemplar.Naming.Convention

/-! The class model: named classes with typed properties, both in order of arrival. A class is known
by its name and a property by its key; classes refer to each other by name. -/
namespace Exemplar

inductive DataType where
  | string
  | int
  | bool
  /-- Another class, by name. -/
  | named (className : String)
  /-- Only nulls were seen. -/
  | unknown
  deriving DecidableEq

namespace DataType

def text : DataType → String
  | string => "string"
  | int => "int"
  | bool => "bool"
  | named className => className
  | unknown => "unknown"

def isPrimitive : DataType → Bool
  | string | int | bool => true
  | _ => false

def isUnknown : DataType → Bool
  | unknown => true
  | _ => false

def className? : DataType → Option String
  | named className => some className
  | _ => none

end DataType

structure Property where
  /-- The key in the documents. -/
  key : String
  /-- The key as a name. -/
  name : String
  dataType : DataType
  isArray : Bool
  deriving DecidableEq

/-- The property with a string for a missing type. -/
def Property.solved (p : Property) : Property :=
  if p.dataType.isUnknown then { p with dataType := .string } else p

namespace Property

@[simp] theorem key_solved (p : Property) : p.solved.key = p.key := by
  rw [solved]
  split <;> rfl

@[simp] theorem name_solved (p : Property) : p.solved.name = p.name := by
  rw [solved]
  split <;> rfl

@[simp] theorem isArray_solved (p : Property) : p.solved.isArray = p.isArray := by
  rw [solved]
  split <;> rfl

theorem dataType_solved (p : Property) :
    p.solved.dataType = if p.dataType = .unknown then .string else p.dataType := by
  cases type : p.dataType <;> simp [solved, DataType.isUnknown, type]

theorem dataType_solved_ne_unknown (p : Property) : p.solved.dataType ≠ .unknown := by
  rw [dataType_solved]
  split
  · exact nofun
  · assumption

theorem dataType_of_solved {p : Property} {other : String} (h : p.solved.dataType = .named other) :
    p.dataType = .named other := by
  rw [dataType_solved] at h
  split at h
  · cases h
  · exact h

end Property

structure Class where
  name : String
  properties : Dict Property
  deriving DecidableEq

namespace Class

def new (name : String) : Class := ⟨name, .empty⟩

def property? (c : Class) (key : String) : Option Property :=
  c.properties.get? key

/-- Adds a property; a key that is present keeps its property. -/
def addProperty (c : Class) (key : String) (dataType : DataType) (isArray : Bool) : Class :=
  { c with
    properties := c.properties.add key ⟨key, Naming.pascalCase key, dataType, isArray⟩ }

/-- Whether the key has a property without a type and a type is given for it. -/
def isPlaceholder (c : Class) (key : String) (dataType : DataType) : Bool :=
  (c.property? key).any (·.dataType.isUnknown) && !dataType.isUnknown

/-- Gives an untyped property its type; any other property stays as it is. -/
def resolve (c : Class) (key : String) (dataType : DataType) (isArray : Bool) : Class :=
  if c.isPlaceholder key dataType then
    { c with
      properties := c.properties.modify key fun p =>
        { p with dataType := dataType, isArray := isArray } }
  else c

/-- The class with its properties solved. -/
def solved (c : Class) : Class :=
  { c with properties := c.properties.map Property.solved }

/-- Gives a property another name. -/
def rename (c : Class) (key name : String) : Class :=
  { c with properties := c.properties.modify key ({ · with name := name }) }

@[simp] theorem property?_new (name key : String) : (new name).property? key = none := rfl

theorem property?_addProperty (c : Class) (key other : String) (dataType : DataType)
    (isArray : Bool) :
    (c.addProperty key dataType isArray).property? other
      = if other = key then
          some ((c.property? key).getD ⟨key, Naming.pascalCase key, dataType, isArray⟩)
        else c.property? other :=
  Dict.get?_add ..

theorem keys_addProperty (c : Class) (key : String) (dataType : DataType) (isArray : Bool) :
    (c.addProperty key dataType isArray).properties.keys
      = if key ∈ c.properties.keys then c.properties.keys else c.properties.keys ++ [key] :=
  Dict.keys_add ..

theorem property?_resolve (c : Class) (key other : String) (dataType : DataType)
    (isArray : Bool) :
    (c.resolve key dataType isArray).property? other
      = if other = key ∧ c.isPlaceholder key dataType then
          (c.property? other).map ({ · with dataType := dataType, isArray := isArray })
        else c.property? other := by
  by_cases h : c.isPlaceholder key dataType
  · simp only [resolve, h, if_true, and_true]
    exact Dict.get?_modify ..
  · simp [resolve, h]

@[simp] theorem keys_resolve (c : Class) (key : String) (dataType : DataType) (isArray : Bool) :
    (c.resolve key dataType isArray).properties.keys = c.properties.keys := by
  by_cases h : c.isPlaceholder key dataType
  · simp only [resolve, h, if_true]
    exact Dict.keys_modify ..
  · simp [resolve, h]

theorem property?_solved (c : Class) (key : String) :
    c.solved.property? key = (c.property? key).map Property.solved :=
  Dict.get?_map ..

theorem mem_keys_iff (c : Class) (key : String) :
    key ∈ c.properties.keys ↔ c.property? key ≠ none := by
  rw [property?, Ne, Dict.get?_eq_none_iff, Decidable.not_not]

end Class

structure Model where
  classes : Dict Class
  deriving DecidableEq

namespace Model

def empty : Model := ⟨.empty⟩

instance : EmptyCollection Model := ⟨empty⟩

/-- The names of the classes in order of registration. -/
def names (m : Model) : List String :=
  m.classes.keys

def get? (m : Model) (name : String) : Option Class :=
  m.classes.get? name

/-- Registers a class that is not there yet. -/
def register (m : Model) (name : String) : Model :=
  ⟨m.classes.add name (Class.new name)⟩

/-- Changes a class, which is registered first if need be. -/
def update (m : Model) (name : String) (f : Class → Class) : Model :=
  ⟨(m.register name).classes.modify name f⟩

def property? (m : Model) (className key : String) : Option Property :=
  (m.get? className).bind (·.property? key)

/-- The class of a name; one that is not registered has no properties. -/
def classOf (m : Model) (name : String) : Class :=
  (m.get? name).getD (.new name)

def addProperty (m : Model) (className key : String) (dataType : DataType) (isArray : Bool) :
    Model :=
  m.update className (·.addProperty key dataType isArray)

def resolve (m : Model) (className key : String) (dataType : DataType) (isArray : Bool) : Model :=
  m.update className (·.resolve key dataType isArray)

/-- Every property without a type becomes a string. -/
def solve (m : Model) : Model :=
  ⟨m.classes.map Class.solved⟩

theorem mem_names_iff (m : Model) (name : String) : name ∈ m.names ↔ m.get? name ≠ none := by
  rw [names, get?, Ne, Dict.get?_eq_none_iff, Decidable.not_not]

theorem property?_eq (m : Model) (className key : String) :
    m.property? className key = (m.classOf className).property? key := by
  cases h : m.get? className <;> simp [property?, classOf, h]

theorem classOf_eq (m : Model) {name : String} {c : Class} (h : m.get? name = some c) :
    m.classOf name = c := by
  simp [classOf, h]

theorem names_register (m : Model) (name : String) :
    (m.register name).names = if name ∈ m.names then m.names else m.names ++ [name] :=
  Dict.keys_add ..

theorem mem_names_register (m : Model) (name : String) : name ∈ (m.register name).names := by
  rw [names_register]
  by_cases h : name ∈ m.names <;> simp [h]

theorem register_of_mem (m : Model) {name : String} (h : name ∈ m.names) :
    m.register name = m := by
  rw [register, Dict.add_of_mem _ _ h]

@[simp] theorem register_register (m : Model) (name : String) :
    (m.register name).register name = m.register name :=
  register_of_mem _ (mem_names_register m name)

@[simp] theorem classOf_register (m : Model) (name other : String) :
    (m.register name).classOf other = m.classOf other := by
  by_cases h : other = name <;> simp [classOf, register, get?, Dict.get?_add, h]

@[simp] theorem names_update (m : Model) (name : String) (f : Class → Class) :
    (m.update name f).names = (m.register name).names :=
  Dict.keys_modify ..

theorem get?_update (m : Model) (name other : String) (f : Class → Class) :
    (m.update name f).get? other
      = if other = name then some (f (m.classOf name)) else m.get? other := by
  by_cases h : other = name
  · simp [get?, update, register, Dict.get?_modify, Dict.get?_add, classOf, h]
  · simp [get?, update, register, Dict.get?_modify, Dict.get?_add, h]

theorem classOf_update (m : Model) (name other : String) (f : Class → Class) :
    (m.update name f).classOf other
      = if other = name then f (m.classOf name) else m.classOf other := by
  by_cases h : other = name
  · simp [classOf, update, register, get?, Dict.get?_modify, Dict.get?_add, h]
  · simp [classOf, update, register, get?, Dict.get?_modify, Dict.get?_add, h]

@[simp] theorem names_solve (m : Model) : m.solve.names = m.names :=
  Dict.keys_map ..

theorem get?_solve (m : Model) (name : String) :
    m.solve.get? name = (m.get? name).map Class.solved :=
  Dict.get?_map ..

theorem property?_solve (m : Model) (className key : String) :
    m.solve.property? className key = (m.property? className key).map Property.solved := by
  rw [property?, property?, get?_solve]
  cases m.get? className with
  | none => rfl
  | some c => exact c.property?_solved key

theorem classOf_solve (m : Model) (name : String) :
    m.solve.classOf name = (m.classOf name).solved := by
  rw [classOf, classOf, get?_solve]
  cases m.get? name <;> rfl

end Model

open Json (Value)

/-- The object that stands for a property in the JSON view of a model. -/
def Property.toJson (p : Property) : Value :=
  .object
    [("json_name", .string p.key), ("name", .string p.name),
      ("data_type", .string p.dataType.text), ("is_array", .bool p.isArray)]

def Class.toJson (c : Class) : Value :=
  .object
    [("name", .string c.name),
      ("properties", .object (c.properties.entries.map fun (key, p) => (key, p.toJson)))]

/-- The JSON view of a model: an object with a member for each class. -/
def Model.toJson (m : Model) : Value :=
  .object (m.classes.entries.map fun (name, c) => (name, c.toJson))

end Exemplar

import Exemplar.Declaration.Cycle
import Exemplar.Unicode.GraphemeExtend
import Exemplar.Unicode.Printable

/-! Rust structures with serde attributes. A missing key gives a field its default, so every type of
a field has one: a class that holds itself is boxed and optional. -/
namespace Exemplar.Declaration.Rust
open Unicode

/-- The hexadecimal escape of a character. -/
def hexEscape (c : Char) : List Char :=
  ['\\', 'u', '{'] ++ Nat.toDigits 16 c.toNat ++ ['}']

def escapeChar (c : Char) : List Char :=
  match c with
  | '\x00' => ['\\', '0']
  | '\t' => ['\\', 't']
  | '\r' => ['\\', 'r']
  | '\n' => ['\\', 'n']
  | '\\' => ['\\', '\\']
  | '"' => ['\\', '"']
  | c => if isExtender c || !isPrintable c then hexEscape c else [c]

/-- A string literal whose characters can all be seen. -/
def literal (text : String) : String :=
  String.ofList ('"' :: text.toList.flatMap escapeChar ++ ['"'])

/-- The type of a value of a data type. -/
def baseType : DataType → String
  | .string => "String"
  | .unknown => "String"
  | .int => "i64"
  | .bool => "bool"
  | .named className => Naming.rust.typeName className

/-- The type of a field of the class `owner`. -/
def fieldType (m : Model) (owner : String) (p : Property) : String :=
  let base := baseType p.dataType
  if p.isArray then "Vec<" ++ base ++ ">"
  else
    match p.dataType.className? with
    | some part => if m.closesCycle part owner then "Option<Box<" ++ base ++ ">>" else base
    | none => base

/-- The identifiers of the fields, in the order of the properties. -/
def fieldNames (c : Class) : List String :=
  Naming.distinct (c.properties.values.map fun p => Naming.rust.memberName p.name)

def fieldLines (m : Model) (owner : String) (p : Property) (field : String) : List String :=
  ["    #[serde(rename = " ++ literal p.key ++ ")]",
    "    pub " ++ field ++ ": " ++ fieldType m owner p ++ ","]

def lines (m : Model) (c : Class) : List String :=
  ["#[derive(Debug, Clone, Default, PartialEq, Serialize, Deserialize)]", "#[serde(default)]",
    "pub struct " ++ Naming.rust.typeName c.name ++ " \x7b"] ++
    (c.properties.values.zip (fieldNames c)).flatMap (fun (p, field) => fieldLines m c.name p field) ++
    ["\x7d"]

def heading : List String :=
  ["use serde::\x7bDeserialize, Serialize\x7d;"]

end Exemplar.Declaration.Rust

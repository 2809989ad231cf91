import Exemplar.Model

/-! C# classes with automatic properties for `System.Text.Json`. Whatever is not a number or a truth
value is created with its class, so that nothing starts as null. -/
namespace Exemplar.Declaration.CSharp

/-- Control characters: the C0 and C1 sets and the delete character between them. -/
def isControl (c : Char) : Bool :=
  c.toNat < 0x20 || (0x7F ≤ c.toNat && c.toNat < 0xA0)

def escapeChar (c : Char) : List Char :=
  match c with
  | '"' => ['\\', '"']
  | '\\' => ['\\', '\\']
  | '\n' => ['\\', 'n']
  | '\r' => ['\\', 'r']
  | '\t' => ['\\', 't']
  | c =>
    if isControl c then
      ['\\', 'u', '0', '0', Nat.digitChar (c.toNat / 16), Nat.digitChar (c.toNat % 16)]
    else [c]

def literal (text : String) : String :=
  String.ofList ('"' :: text.toList.flatMap escapeChar ++ ['"'])

/-- The type of a value of a data type. -/
def baseType : DataType → String
  | .string => "string"
  | .unknown => "string"
  | .int => "int"
  | .bool => "bool"
  | .named className => Naming.csharp.typeName className

def memberType (p : Property) : String :=
  if p.isArray then "List<" ++ baseType p.dataType ++ ">" else baseType p.dataType

/-- The value a member starts with. -/
def startValue (p : Property) : String :=
  if p.isArray then " = new();"
  else
    match p.dataType with
    | .string => " = string.Empty;"
    | .unknown => " = string.Empty;"
    | .named _ => " = new();"
    | .int => ""
    | .bool => ""

/-- The name of a member, which may not be that of its type. -/
def memberName (typeName : String) (p : Property) : String :=
  let name := Naming.csharp.memberName p.name
  if name = typeName then name ++ "Value" else name

/-- The identifiers of the members, in the order of the properties. -/
def memberNames (c : Class) : List String :=
  Naming.distinct (c.properties.values.map (memberName (Naming.csharp.typeName c.name)))

def memberLines (p : Property) (member : String) : List String :=
  ["    [JsonPropertyName(" ++ literal p.key ++ ")]",
    "    public " ++ memberType p ++ " " ++ member ++ " \x7b get; set; \x7d" ++ startValue p]

/-- The members with a blank line between them. -/
def bodyLines (c : Class) : List String :=
  [""].intercalate ((c.properties.values.zip (memberNames c)).map fun (p, member) =>
    memberLines p member)

def lines (c : Class) : List String :=
  ["public class " ++ Naming.csharp.typeName c.name, "\x7b"] ++ bodyLines c ++ ["\x7d"]

def heading (space : Option String) : List String :=
  ["using System.Collections.Generic;", "using System.Text.Json.Serialization;"] ++
    match space with
    | some name => ["", "namespace " ++ name ++ ";"]
    | none => []

end Exemplar.Declaration.CSharp

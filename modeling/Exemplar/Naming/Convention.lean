import Exemplar.Naming.Identifier

/-! How a target language spells the names of types and members. -/
namespace Exemplar.Naming

/-- The name of a class whose key has no words. -/
def anonymous : String := "Anonymous"

structure Convention where
  /-- The spelling of a member before it is made an identifier. -/
  memberCase : String → String
  reservedWords : List String
  /-- The spelling of a reserved word as a name. -/
  escape : String → String
  /-- Names that the generated file uses itself; a type may not hide them. -/
  usedTypes : List String
  /-- The name of a member of which no identifier character is left. -/
  fallbackMember : String

namespace Convention

def isReserved (convention : Convention) (name : String) : Bool :=
  name ∈ convention.reservedWords

def unreserved (convention : Convention) (name : String) : String :=
  if convention.isReserved name then convention.escape name else name

/-- The type identifier of a class. -/
def typeName (convention : Convention) (className : String) : String :=
  let name := sanitize (pascalCase className)
  if name.isEmpty then anonymous
  else if name ∈ convention.usedTypes then name ++ "_"
  else convention.unreserved name

/-- The identifier of a member. -/
def memberName (convention : Convention) (propertyName : String) : String :=
  let name := sanitize (convention.memberCase propertyName)
  if name.isEmpty then convention.fallbackMember else convention.unreserved name

end Convention

/-- Raw identifiers, except for the four words that cannot be raw. -/
def escapeRust (name : String) : String :=
  if name ∈ ["self", "Self", "super", "crate"] then name ++ "_" else "r#" ++ name

def rust : Convention where
  memberCase := snakeCase
  reservedWords :=
    ["as", "async", "await", "break", "const", "continue", "crate", "dyn", "else", "enum", "extern",
      "false", "fn", "for", "gen", "if", "impl", "in", "let", "loop", "match", "mod", "move", "mut",
      "pub", "ref", "return", "self", "Self", "static", "struct", "super", "trait", "true", "type",
      "unsafe", "use", "where", "while", "abstract", "become", "box", "do", "final", "macro",
      "override", "priv", "try", "typeof", "unsized", "virtual", "yield"]
  escape := escapeRust
  usedTypes := ["String", "Vec", "Option", "Box", "Serialize", "Deserialize"]
  fallbackMember := "field"

def csharp : Convention where
  memberCase := pascalCase
  reservedWords :=
    ["abstract", "as", "base", "bool", "break", "byte", "case", "catch", "char", "checked", "class",
      "const", "continue", "decimal", "default", "delegate", "do", "double", "else", "enum",
      "event", "explicit", "extern", "false", "finally", "fixed", "float", "for", "foreach", "goto",
      "if", "implicit", "in", "int", "interface", "internal", "is", "lock", "long", "namespace",
      "new", "null", "object", "operator", "out", "override", "params", "private", "protected",
      "public", "readonly", "ref", "return", "sbyte", "sealed", "short", "sizeof", "stackalloc",
      "static", "string", "struct", "switch", "this", "throw", "true", "try", "typeof", "uint",
      "ulong", "unchecked", "unsafe", "ushort", "using", "virtual", "void", "volatile", "while"]
  escape := fun name => "@" ++ name
  usedTypes := ["JsonPropertyName", "JsonPropertyNameAttribute"]
  fallbackMember := "Field"

end Exemplar.Naming

import Exemplar.Decimal.Shortest
import Exemplar.Json.Value

/-! JSON text of a value: compact, or indented by two spaces a level. Members keep their order. -/
namespace Exemplar.Json

/-- Escapes a character of a string: the quote, the backslash and the control characters, those with
a short form by it. -/
def escapeChar (c : Char) : List Char :=
  match c with
  | '"' => ['\\', '"']
  | '\\' => ['\\', '\\']
  | '\x08' => ['\\', 'b']
  | '\t' => ['\\', 't']
  | '\n' => ['\\', 'n']
  | '\x0c' => ['\\', 'f']
  | '\r' => ['\\', 'r']
  | c =>
    if c < ' ' then
      ['\\', 'u', '0', '0', Nat.digitChar (c.toNat / 16), Nat.digitChar (c.toNat % 16)]
    else [c]

def quote (text : String) : String :=
  String.ofList ('"' :: text.toList.flatMap escapeChar ++ ['"'])

/-- Floats from `1e-5` up to `1e16` have a decimal point and no exponent. -/
def Number.style : Decimal.Style := ⟨-5, 15, true⟩

def Number.text : Number → String
  | integer n => toString n
  | real x => Number.style.write x

namespace Value

mutual
/-- The value without any blanks. -/
def compact : Value → String
  | null => "null"
  | bool b => if b then "true" else "false"
  | number n => n.text
  | string text => quote text
  | array items => "[" ++ ",".intercalate (compactItems items) ++ "]"
  | object members => "\x7b" ++ ",".intercalate (compactMembers members) ++ "\x7d"

def compactItems : List Value → List String
  | [] => []
  | v :: rest => compact v :: compactItems rest

def compactMembers : List (String × Value) → List String
  | [] => []
  | (k, v) :: rest => (quote k ++ ":" ++ compact v) :: compactMembers rest
end

/-- A line break and the indentation of a level. -/
def newline (level : Nat) : String :=
  "\n" ++ String.ofList (List.replicate (2 * level) ' ')

/-- Parts between brackets, one a line. -/
def bracketed (level : Nat) (left right : String) (parts : List String) : String :=
  if parts.isEmpty then left ++ right
  else
    left ++ newline (level + 1) ++ ("," ++ newline (level + 1)).intercalate parts ++
      newline level ++ right

mutual
/-- The value with every item and member on a line of its own. -/
def pretty (level : Nat) : Value → String
  | array items => bracketed level "[" "]" (prettyItems (level + 1) items)
  | object members => bracketed level "\x7b" "\x7d" (prettyMembers (level + 1) members)
  | null => "null"
  | bool b => if b then "true" else "false"
  | number n => n.text
  | string text => quote text

def prettyItems (level : Nat) : List Value → List String
  | [] => []
  | v :: rest => pretty level v :: prettyItems level rest

def prettyMembers (level : Nat) : List (String × Value) → List String
  | [] => []
  | (k, v) :: rest => (quote k ++ ": " ++ pretty level v) :: prettyMembers level rest
end

end Value

end Exemplar.Json

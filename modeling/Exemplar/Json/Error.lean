/-! Why and where a text is not a JSON document. -/
namespace Exemplar.Json

inductive Cause where
  | endInValue
  | endInArray
  | endInObject
  | endInString
  | expectedValue
  | expectedLiteral
  | expectedColon
  | expectedItemEnd
  | expectedMemberEnd
  | trailingComma
  | trailingCharacters
  | keyNotString
  | invalidNumber
  | numberOutOfRange
  | invalidEscape
  | loneSurrogate
  | missingSurrogate
  | controlCharacter
  | tooDeep
  deriving DecidableEq

def Cause.message : Cause → String
  | endInValue => "EOF while parsing a value"
  | endInArray => "EOF while parsing a list"
  | endInObject => "EOF while parsing an object"
  | endInString => "EOF while parsing a string"
  | expectedValue => "expected value"
  | expectedLiteral => "expected ident"
  | expectedColon => "expected `:`"
  | expectedItemEnd => "expected `,` or `]`"
  | expectedMemberEnd => "expected `,` or `\x7d`"
  | trailingComma => "trailing comma"
  | trailingCharacters => "trailing characters"
  | keyNotString => "key must be a string"
  | invalidNumber => "invalid number"
  | numberOutOfRange => "number out of range"
  | invalidEscape => "invalid escape"
  | loneSurrogate => "lone leading surrogate in hex escape"
  | missingSurrogate => "unexpected end of hex escape"
  | controlCharacter => "control character (\\u0000-\\u001F) found while parsing a string"
  | tooDeep => "recursion limit exceeded"

/-- One step from a value to a part of it. A member whose key could not be read is `unknown`. -/
inductive Segment where
  | index (i : Nat)
  | key (name : String)
  | unknown
  deriving DecidableEq

def Segment.text : Segment → String
  | index i => "[" ++ toString i ++ "]"
  | key name => name
  | unknown => "?"

/-- Keys after the first segment are led by a point; indexes are not. -/
def Segment.joined : Segment → String
  | index i => (index i).text
  | segment => "." ++ segment.text

/-- The path as text; the document itself is a single point. -/
def pathText : List Segment → String
  | [] => "."
  | first :: rest => first.text ++ String.join (rest.map Segment.joined)

/-- A place in a text: lines count from one, and the column is the number of bytes before it. -/
structure Place where
  line : Nat
  column : Nat
  deriving DecidableEq

/-- The place reached after a number of bytes. A character cut short counts the bytes taken. -/
def Place.advance (place : Place) : List Char → Nat → Place
  | [], _ => place
  | c :: rest, bytes =>
    if bytes = 0 then place
    else if c = '\n' then advance ⟨place.line + 1, 0⟩ rest (bytes - 1)
    else advance ⟨place.line, place.column + min c.utf8Size bytes⟩ rest (bytes - c.utf8Size)

/-- The place that lies `bytes` bytes into a text. -/
def Place.ofOffset (text : List Char) (bytes : Nat) : Place :=
  Place.advance ⟨1, 0⟩ text bytes

structure ParseError where
  cause : Cause
  path : List Segment
  place : Place
  deriving DecidableEq

/-- The cause with its place. -/
def ParseError.detail (e : ParseError) : String :=
  e.cause.message ++ " at line " ++ toString e.place.line ++ " column " ++ toString e.place.column

def ParseError.message (e : ParseError) : String :=
  "invalid JSON at path `" ++ pathText e.path ++ "`: " ++ e.detail

end Exemplar.Json

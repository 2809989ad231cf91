import Exemplar.Naming.Words
import Exemplar.Unicode.Alphabetic
import Exemplar.Unicode.Numeric

/-! Identifiers made of arbitrary text, and lists of them made distinct. -/
namespace Exemplar.Naming
open Unicode

def isAlphanumeric (c : Char) : Bool :=
  isAlphabetic c || isNumeric c

/-- The characters an identifier may hold. -/
def isIdentifierPart (c : Char) : Bool :=
  isAlphanumeric c || c == '_'

/-- The identifier characters of a text, with an underscore before a leading ASCII digit. Nothing may
be left. -/
def sanitizeChars (text : List Char) : List Char :=
  match text.filter isIdentifierPart with
  | [] => []
  | c :: rest => if isAsciiDigit c then '_' :: c :: rest else c :: rest

def sanitize (text : String) : String :=
  String.ofList (sanitizeChars text.toList)

/-- A name with the number that tells it from its namesakes. -/
def numbered (name : String) (n : Nat) : String :=
  name ++ toString n

/-- The name if it is free, else the name with the least number from two on that is free. Among one
more number than there are taken names one is free, so no later number has to be tried. -/
def freeName (taken : List String) (name : String) : String :=
  if name ∈ taken then
    let numbers := (List.range (taken.length + 1)).map (· + 2)
    numbered name ((numbers.find? (numbered name · ∉ taken)).getD 2)
  else name

/-- Each name made free of those before it. -/
def distinctFrom (taken : List String) : List String → List String
  | [] => []
  | name :: rest =>
    let free := freeName taken name
    free :: distinctFrom (free :: taken) rest

/-- The names in order, later namesakes numbered. -/
def distinct (names : List String) : List String :=
  distinctFrom [] names

end Exemplar.Naming

import Exemplar.Unicode.CaseMapping
import Exemplar.Unicode.Lowercase
import Exemplar.Unicode.Uppercase
import Exemplar.Unicode.WhiteSpace

/-! Keys spelled as names: words joined with upper-case initials, or in lower case with underscores.

Words of a key end at an underscore, a space or a hyphen. In snake case a word also starts where the
case of the letters says so. -/
namespace Exemplar.Naming
open Unicode

/-- The parts of a text between the occurrences of a character. -/
def split (separator : Char) : List Char → List (List Char)
  | [] => [[]]
  | c :: rest =>
    match split separator rest with
    | [] => [[c]]
    | part :: parts => if c = separator then [] :: part :: parts else (c :: part) :: parts

/-- The first character in upper case, which may be several characters; the others as they are. -/
def capitalize : List Char → List Char
  | [] => []
  | c :: rest => upper c ++ rest

/-- One pass: the parts capitalized and joined. -/
def joinCapitalized (separator : Char) (text : List Char) : List Char :=
  (split separator text).flatMap capitalize

def separators : List Char := ['_', ' ', '-']

/-- A pass for each separator; a blank text has no words. -/
def pascalChars (text : List Char) : List Char :=
  if text.all isBlank then []
  else separators.foldl (fun text separator => joinCapitalized separator text) text

/-- The key with its words capitalized and nothing between them. -/
def pascalCase (key : String) : String :=
  String.ofList (pascalChars key.toList)

def isAsciiDigit (c : Char) : Bool :=
  '0' ≤ c && c ≤ '9'

/-- A word starts at an upper-case letter after a lower-case letter or a digit, and at the last of
several upper-case letters if a lower-case letter follows. -/
def startsWord (previous : Option Char) (c : Char) (next : Option Char) : Bool :=
  match previous with
  | none => false
  | some p => isUpper c && (isLower p || isAsciiDigit p || (isUpper p && next.any isLower))

/-- The underscore before a word, unless the text so far is empty or ends in one. -/
def wordGap (last : Option Char) : List Char :=
  match last with
  | none => []
  | some c => if c = '_' then [] else ['_']

/-- `last` is the last character written and `previous` the last one read. -/
def snakeFrom (last previous : Option Char) : List Char → List Char
  | [] => []
  | c :: rest =>
    if c ∈ separators then
      let gap := wordGap last
      gap ++ snakeFrom (gap.getLast?.or last) (some c) rest
    else
      let gap := if startsWord previous c rest.head? then wordGap last else []
      let written := gap ++ lower c
      written ++ snakeFrom (written.getLast?.or last) (some c) rest

/-- The text in lower case with underscores between its words. -/
def snakeCase (text : String) : String :=
  String.ofList (snakeFrom none none text.toList)

end Exemplar.Naming

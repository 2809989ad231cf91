import Exemplar.Json.Lexeme
import Exemplar.Unicode.WhiteSpace

/-! The tokens of a filter program. A text is a run of tokens of its own: between its quotes come
its pieces, and between the ends of a hole the tokens of a term. -/
namespace Exemplar.Filter

inductive Token where
  | word (name : String)
  /-- A name with its dollar sign. -/
  | variable (name : String)
  /-- A name with its at sign. -/
  | format (name : String)
  | number (spelling : String)
  /-- Operators and points; a point keeps the key that follows it. -/
  | symbol (text : String)
  | opening (bracket : Char)
  | closing (bracket : Char)
  | quote
  | piece (text : String)
  | holeStart
  | holeEnd
  deriving DecidableEq

namespace Token

def isNameStart (c : Char) : Bool :=
  c.isAlpha || c == '_'

def isNamePart (c : Char) : Bool :=
  c.isAlphanum || c == '_'

def isOperator (c : Char) : Bool :=
  c ∈ ['|', '=', '!', '<', '>', '+', '-', '*', '/', '%']

/-- A minus sign after an operator belongs to what follows. -/
def continuesOperator (c : Char) : Bool :=
  isOperator c && c != '-'

/-- The length of a name after its first character, module included. -/
def nameLength (rest : List Char) : Nat :=
  let name := rest.takeWhile isNamePart
  match rest.drop name.length with
  | ':' :: ':' :: c :: more =>
    if isNameStart c then name.length + 3 + (more.takeWhile isNamePart).length else name.length
  | _ => name.length

/-- The length of a numeral, if its exponent has digits. -/
def numeralLength? (text : List Char) : Option Nat :=
  let whole := (text.takeWhile Char.isDigit).length
  let point :=
    match text.drop whole with
    | '.' :: rest => 1 + (rest.takeWhile Char.isDigit).length
    | _ => 0
  match text.drop (whole + point) with
  | c :: rest =>
    if c == 'e' || c == 'E' then
      let sign := if rest.head? == some '+' || rest.head? == some '-' then 1 else 0
      let digits := ((rest.drop sign).takeWhile Char.isDigit).length
      if digits = 0 then none else some (whole + point + 1 + sign + digits)
    else some (whole + point)
  | [] => some (whole + point)

/-- The length of a comment after its sign. A line that ends in an odd number of backslashes
continues it. -/
def commentLength (backslashes : Nat) : List Char → Nat
  | [] => 0
  | '\\' :: rest => commentLength (backslashes + 1) rest + 1
  | '\r' :: '\n' :: rest => if backslashes % 2 = 1 then commentLength 0 rest + 2 else 2
  | '\n' :: rest => if backslashes % 2 = 1 then commentLength 0 rest + 1 else 1
  | _ :: rest => commentLength 0 rest + 1

/-- Where a position is. -/
structure Position where
  /-- The parentheses opened in each hole around it, innermost first. -/
  holes : List Nat
  /-- Inside a text, what has been read of its piece, last character first. -/
  piece : Option (List Char)

/-- Tokens found, the position after them, and the number of characters they take after the first. -/
structure Step where
  tokens : List Token
  position : Position
  length : Nat

def string (chars : List Char) : String :=
  String.ofList chars

/-- A step inside a text. -/
def textStep (holes : List Nat) (seen : List Char) (c : Char) (rest : List Char) : Option Step :=
  let piece : List Token := if seen.isEmpty then [] else [.piece (string seen.reverse)]
  if c = '"' then some ⟨piece ++ [.quote], ⟨holes, none⟩, 0⟩
  else if c = '\\' then
    if rest.head? = some '(' then some ⟨piece ++ [.holeStart], ⟨0 :: holes, none⟩, 1⟩
    else
      match Json.Lexeme.escape rest with
      | .ok (e, n) => some ⟨[], ⟨holes, some (e :: seen)⟩, n⟩
      | .error _ => none
  else some ⟨[], ⟨holes, some (c :: seen)⟩, 0⟩

/-- The parenthesis that closes a hole goes back into its text. -/
def closeParenthesis : List Nat → Step
  | 0 :: outer => ⟨[.holeEnd], ⟨outer, some []⟩, 0⟩
  | (n + 1) :: outer => ⟨[.closing ')'], ⟨n :: outer, none⟩, 0⟩
  | [] => ⟨[.closing ')'], ⟨[], none⟩, 0⟩

def openParenthesis : List Nat → List Nat
  | n :: outer => (n + 1) :: outer
  | [] => []

/-- A step outside of texts. -/
def codeStep (holes : List Nat) (c : Char) (rest : List Char) : Option Step :=
  let stay : Position := ⟨holes, none⟩
  let named (make : String → Token) (n : Nat) : Option Step :=
    some ⟨[make (string (c :: rest.take n))], stay, n⟩
  if Unicode.isBlank c then some ⟨[], stay, 0⟩
  else if c = '#' then some ⟨[], stay, commentLength 0 rest⟩
  else if c = '"' then some ⟨[.quote], ⟨holes, some []⟩, 0⟩
  else if c = '(' then some ⟨[.opening c], ⟨openParenthesis holes, none⟩, 0⟩
  else if c = ')' then some (closeParenthesis holes)
  else if c ∈ ['[', '{'] then some ⟨[.opening c], stay, 0⟩
  else if c ∈ [']', '}'] then some ⟨[.closing c], stay, 0⟩
  else if c ∈ [':', ';', ',', '?'] then named .symbol 0
  else if c = '.' then
    if rest.head? = some '.' then named .symbol 1
    else named .symbol (if rest.head?.any isNameStart then (rest.takeWhile isNamePart).length else 0)
  else if c = '$' || c = '@' then
    if rest.head?.any isNameStart then
      named (if c = '$' then .variable else .format) (nameLength rest)
    else none
  else if isNameStart c then named .word (nameLength rest)
  else if c.isDigit then (numeralLength? (c :: rest)).bind fun n => named .number (n - 1)
  else if isOperator c then named .symbol (rest.takeWhile continuesOperator).length
  else none

/-- The tokens of a program from a position on, if it can be divided into tokens. -/
def scan (position : Position) : List Char → Option (List Token)
  | [] => if position.holes.isEmpty && position.piece.isNone then some [] else none
  | c :: rest =>
    let step? :=
      match position.piece with
      | some seen => textStep position.holes seen c rest
      | none => codeStep position.holes c rest
    match step? with
    | some step => (step.tokens ++ ·) <$> scan step.position (rest.drop step.length)
    | none => none
termination_by text => text.length
decreasing_by
  simp only [List.length_drop, List.length_cons]
  omega

/-- The tokens of a program. -/
def ofProgram (program : String) : Option (List Token) :=
  scan ⟨[], none⟩ program.toList

end Token

end Exemplar.Filter

import Exemplar.Filter.Datum
import Exemplar.Json.Lexeme

/-! Values read from texts inside a program. Numerals keep their spelling, and a key that comes again
keeps its first place and takes the last value. -/
namespace Exemplar.Filter

/-- What was looked for where a text cannot be read on. -/
inductive Missing where
  | value
  | valueOrEnd
  | commaOrEnd
  | string
  /-- A string that is not well formed. -/
  | stringEnd
  | colon
  | digit
  | ending
  deriving DecidableEq

def Missing.text : Missing → String
  | value => "value"
  | valueOrEnd => "value or end of sequence"
  | commaOrEnd => "comma or end of sequence"
  | string => "string"
  | stringEnd => "end of string"
  | colon => "colon"
  | digit => "digit"
  | ending => "end of file"

namespace Reading

/-- What stands at the head of a text, and the rest of the text. -/
abbrev Head (α : Type) := α × List Char

def skipBlanks (text : List Char) : List Char :=
  text.dropWhile Json.Lexeme.isSpace

def digits (text : List Char) : Except Missing (Head (List Char)) :=
  let found := text.takeWhile Char.isDigit
  if found.isEmpty then .error .digit else .ok (found, text.drop found.length)

/-- Digits without a leading zero. -/
def whole : List Char → Except Missing (Head (List Char))
  | '0' :: rest => .ok (['0'], rest)
  | text => digits text

def fraction : List Char → Except Missing (Head (List Char))
  | '.' :: rest => do
    let (found, rest) ← digits rest
    return ('.' :: found, rest)
  | text => .ok ([], text)

def exponent : List Char → Except Missing (Head (List Char))
  | c :: rest =>
    if c = 'e' || c = 'E' then do
      let sign := (rest.take 1).filter fun s => s = '+' || s = '-'
      let (found, rest) ← digits (rest.drop sign.length)
      return (c :: sign ++ found, rest)
    else .ok ([], c :: rest)
  | [] => .ok ([], [])

def numeral (text : List Char) : Except Missing (Head Datum) := do
  let sign := (text.take 1).filter (· = '-')
  let (found, rest) ← whole (text.drop sign.length)
  let (part, rest) ← fraction rest
  let (power, rest) ← exponent rest
  return (.ofSpelling (String.ofList (sign ++ found ++ part ++ power)), rest)

/-- A string after its opening quote. -/
def quoted (text : List Char) : Except Missing (Head String) :=
  match Json.Lexeme.quoted [] 0 0 text with
  | .ok (chars, n) => .ok (String.ofList chars, text.drop n)
  | .error _ => .error .stringEnd

/-- A value of one lexeme. -/
def scalar : List Char → Except Missing (Head Datum)
  | 'n' :: 'u' :: 'l' :: 'l' :: rest => .ok (.null, rest)
  | 't' :: 'r' :: 'u' :: 'e' :: rest => .ok (.bool true, rest)
  | 'f' :: 'a' :: 'l' :: 's' :: 'e' :: rest => .ok (.bool false, rest)
  | '"' :: rest => do
    let (text, rest) ← quoted rest
    return (.string text, rest)
  | c :: rest => if c = '-' || c.isDigit then numeral (c :: rest) else .error .value
  | [] => .error .value

mutual
/-- A value of so many steps at most. -/
def value : Nat → List Char → Except Missing (Head Datum)
  | 0, _ => .error .value
  | steps + 1, text =>
    match skipBlanks text with
    | '[' :: rest =>
      match skipBlanks rest with
      | ']' :: rest => .ok (.array [], rest)
      | [] => .error .valueOrEnd
      | rest => do
        let (items, rest) ← items steps rest
        return (.array items, rest)
    | '{' :: rest =>
      match skipBlanks rest with
      | '}' :: rest => .ok (.object [], rest)
      | [] => .error .valueOrEnd
      | rest => do
        let (members, rest) ← members steps [] rest
        return (.object members, rest)
    | rest => scalar rest

/-- The items of an array up to its end. -/
def items : Nat → List Char → Except Missing (Head (List Datum))
  | 0, _ => .error .value
  | steps + 1, text => do
    let (v, rest) ← value steps text
    match skipBlanks rest with
    | ']' :: rest => return ([v], rest)
    | ',' :: rest =>
      let (more, rest) ← items steps rest
      return (v :: more, rest)
    | _ => throw .commaOrEnd

/-- The members of an object up to its end, with those before them. -/
def members : Nat → List (String × Datum) → List Char → Except Missing (Head (List (String × Datum)))
  | 0, _, _ => .error .value
  | steps + 1, before, text => do
    let (key, rest) ←
      match skipBlanks text with
      | '"' :: rest => quoted rest
      | [] => throw .value
      | _ => throw .string
    match skipBlanks rest with
    | ':' :: rest =>
      let (v, rest) ← value steps rest
      let found := Entries.put before key v
      match skipBlanks rest with
      | '}' :: rest => return (found, rest)
      | ',' :: rest => members steps found rest
      | _ => throw .commaOrEnd
    | _ => throw .colon
end

/-- The value that a whole text stands for. Each step leads to a shorter text or to the one value
that starts there, so twice as many steps as characters are enough. -/
def ofText (text : String) : Except Missing Datum := do
  let (v, rest) ← value (2 * text.length + 2) text.toList
  if (skipBlanks rest).isEmpty then return v else throw .ending

end Reading

end Exemplar.Filter

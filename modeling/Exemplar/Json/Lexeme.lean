import Exemplar.Json.Numeral

/-! Lexemes of a JSON text. A text that cannot be read on ends in a broken or stray lexeme, which
carries its own cause: whether it is ever reported depends on what was expected there. -/
namespace Exemplar.Json

inductive Lexeme where
  | openArray
  | closeArray
  | openObject
  | closeObject
  | comma
  | colon
  | scalar (value : Value)
  | text (value : String)
  /-- A literal or numeral that fails `bytes` into the document. -/
  | brokenScalar (cause : Cause) (bytes : Nat)
  | brokenText (cause : Cause) (bytes : Nat)
  /-- A character that starts no lexeme. -/
  | stray

structure Token where
  lexeme : Lexeme
  /-- Bytes before it. -/
  start : Nat

namespace Lexeme

/-- The blanks between lexemes. -/
def isSpace (c : Char) : Bool :=
  c == ' ' || c == '\t' || c == '\n' || c == '\r'

def byteCount : List Char → Nat
  | [] => 0
  | c :: rest => c.utf8Size + byteCount rest

def hexValue? (c : Char) : Option Nat :=
  if '0' ≤ c && c ≤ '9' then some (c.toNat - '0'.toNat)
  else if 'a' ≤ c && c ≤ 'f' then some (c.toNat - 'a'.toNat + 10)
  else if 'A' ≤ c && c ≤ 'F' then some (c.toNat - 'A'.toNat + 10)
  else none

/-- A cause and the bytes read up to it. -/
abbrev Scan (α : Type) := Except (Cause × Nat) α

/-- Four hex digits. They are looked for in the next four bytes, whatever stands there. -/
def fourHex (text : List Char) : Scan Nat :=
  match (text.take 4).mapM hexValue? with
  | some [a, b, c, d] => .ok (((a * 16 + b) * 16 + c) * 16 + d)
  | _ => if byteCount text < 4 then .error (.endInString, byteCount text) else .error (.invalidEscape, 4)

def isTrailing (n : Nat) : Bool :=
  0xDC00 ≤ n && n ≤ 0xDFFF

def isLeading (n : Nat) : Bool :=
  0xD800 ≤ n && n ≤ 0xDBFF

/-- The failure moved on by the bytes before it. -/
def after {α : Type} (bytes : Nat) : Scan α → Scan α
  | .ok x => .ok x
  | .error (cause, n) => .error (cause, bytes + n)

/-- What follows `\u`: one code unit, or a pair of surrogates with a second `\u` between them. -/
def unicodeEscape (text : List Char) : Scan (Char × Nat) := do
  let first ← fourHex text
  if isTrailing first then throw (.loneSurrogate, 4)
  if !isLeading first then return (Char.ofNat first, 4)
  match text.drop 4 with
  | [] => throw (.endInString, 4)
  | '\\' :: [] => throw (.endInString, 5)
  | '\\' :: 'u' :: rest =>
    let second ← after 6 (fourHex rest)
    if !isTrailing second then throw (.loneSurrogate, 10)
    return (Char.ofNat (0x10000 + (first - 0xD800) * 0x400 + (second - 0xDC00)), 10)
  | '\\' :: _ => throw (.missingSurrogate, 6)
  | _ => throw (.missingSurrogate, 5)

/-- What follows a backslash: the character meant and the number of characters read. -/
def escape : List Char → Scan (Char × Nat)
  | [] => .error (.endInString, 0)
  | '"' :: _ => .ok ('"', 1)
  | '\\' :: _ => .ok ('\\', 1)
  | '/' :: _ => .ok ('/', 1)
  | 'b' :: _ => .ok ('\x08', 1)
  | 'f' :: _ => .ok ('\x0c', 1)
  | 'n' :: _ => .ok ('\n', 1)
  | 'r' :: _ => .ok ('\r', 1)
  | 't' :: _ => .ok ('\t', 1)
  | 'u' :: rest => do
    let (c, n) ← after 1 (unicodeEscape rest)
    return (c, n + 1)
  | _ => .error (.invalidEscape, 1)

/-- The characters of a string after its opening quote, and how many are read with the closing one. -/
def quoted (seen : List Char) (bytes count : Nat) : List Char → Scan (List Char × Nat)
  | [] => .error (.endInString, bytes)
  | '"' :: _ => .ok (seen.reverse, count + 1)
  | '\\' :: rest => do
    let (c, n) ← after (bytes + 1) (escape rest)
    quoted (c :: seen) (bytes + 1 + n) (count + 1 + n) (rest.drop n)
  | c :: rest =>
    if c < ' ' then .error (.controlCharacter, bytes + 1)
    else quoted (c :: seen) (bytes + c.utf8Size) (count + 1) rest
termination_by text => text.length
decreasing_by all_goals (simp only [List.length_drop, List.length_cons]; omega)

/-- The rest of a literal after its first character. -/
def literal (bytes : Nat) : (expected text : List Char) → Scan Unit
  | [], _ => .ok ()
  | _ :: _, [] => .error (.endInValue, bytes)
  | e :: expected, c :: rest =>
    if c = e then literal (bytes + 1) expected rest else .error (.expectedLiteral, bytes + 1)

/-- The lexeme that starts with `c`, and the number of characters of `rest` it takes. No number
means that the text cannot be read on. -/
def read (start : Nat) (c : Char) (rest : List Char) : Lexeme × Option Nat :=
  let word (text : String) (value : Value) : Lexeme × Option Nat :=
    match literal 1 text.toList rest with
    | .ok _ => (.scalar value, some text.length)
    | .error (cause, bytes) => (.brokenScalar cause (start + bytes), none)
  match c with
  | '[' => (.openArray, some 0)
  | ']' => (.closeArray, some 0)
  | '{' => (.openObject, some 0)
  | '}' => (.closeObject, some 0)
  | ',' => (.comma, some 0)
  | ':' => (.colon, some 0)
  | 'n' => word "ull" .null
  | 't' => word "rue" (.bool true)
  | 'f' => word "alse" (.bool false)
  | '"' =>
    match quoted [] 1 0 rest with
    | .ok (value, n) => (.text (String.ofList value), some n)
    | .error (cause, bytes) => (.brokenText cause (start + bytes), none)
  | _ =>
    if c == '-' || c.isDigit then
      match Numeral.read (c :: rest) with
      | .ok (x, n) => (.scalar (.number x), some (n - 1))
      | .error e => (.brokenScalar e.cause (start + e.bytes), none)
    else (.stray, none)

end Lexeme

/-- The tokens of a text from `start` bytes on. -/
def tokens (start : Nat) : List Char → List Token
  | [] => []
  | c :: rest =>
    if Lexeme.isSpace c then tokens (start + 1) rest
    else
      match Lexeme.read start c rest with
      | (lexeme, none) => [⟨lexeme, start⟩]
      | (lexeme, some n) =>
        ⟨lexeme, start⟩ ::
          tokens (start + c.utf8Size + Lexeme.byteCount (rest.take n)) (rest.drop n)
termination_by text => text.length
decreasing_by all_goals (simp only [List.length_drop, List.length_cons]; omega)

end Exemplar.Json

import Exemplar.Filter.Term
import Exemplar.Filter.Token

/-! Terms of tokens. Operands are read first with the operators between them, and then arranged by
precedence. The depth of a term is bounded by the number of its tokens. -/
namespace Exemplar.Filter

/-- An operator between two operands. A pipe may take the outputs of its left side apart. -/
inductive Operator where
  | pipe (pattern : Option Pattern)
  | comma
  | assign
  | update
  | updateMath (op : MathOp)
  | updateOrElse
  | orElse
  | or
  | and
  | compare (op : Comparison)
  | math (op : MathOp)

namespace Operator

/-- Operators of higher precedence bind their operands first. -/
def precedence : Operator → Nat
  | pipe _ => 0
  | comma => 1
  | assign | update | updateMath _ | updateOrElse => 2
  | orElse => 3
  | or => 4
  | and => 5
  | compare .equal | compare .different => 6
  | compare _ => 7
  | math .add | math .sub => 8
  | math .mul | math .div => 9
  | math .rem => 10

/-- Whether operators of a precedence group to the right. -/
def groupsRight (precedence : Nat) : Bool :=
  precedence == 0 || precedence == 2

def join (op : Operator) (l r : Term) : Term :=
  match op with
  | pipe none => .pipe l r
  | pipe (some pattern) => .bindAs l pattern r
  | comma => .comma l r
  | assign => .assign l r
  | update => .update l r
  | updateMath op => .updateMath op l r
  | updateOrElse => .updateOrElse l r
  | orElse => .orElse l r
  | or => .logic true l r
  | and => .logic false l r
  | compare op => .compare op l r
  | math op => .math op l r

def ofSymbol? : String → Option Operator
  | "|" => some (pipe none)
  | "=" => some assign
  | "|=" => some update
  | "+=" => some (updateMath .add)
  | "-=" => some (updateMath .sub)
  | "*=" => some (updateMath .mul)
  | "/=" => some (updateMath .div)
  | "%=" => some (updateMath .rem)
  | "//=" => some updateOrElse
  | "//" => some orElse
  | "==" => some (compare .equal)
  | "!=" => some (compare .different)
  | "<" => some (compare .less)
  | "<=" => some (compare .atMost)
  | ">" => some (compare .greater)
  | ">=" => some (compare .atLeast)
  | "+" => some (math .add)
  | "-" => some (math .sub)
  | "*" => some (math .mul)
  | "/" => some (math .div)
  | "%" => some (math .rem)
  | _ => none

/-- Where to divide operands: at an operator of least precedence, the first if these group to the
right, else the last. -/
def divide (tail : List (Operator × Term)) : Nat :=
  let levels := tail.map (·.1.precedence)
  let least := levels.foldl min 10
  if groupsRight least then levels.idxOf least
  else tail.length - 1 - levels.reverse.idxOf least

/-- The term of operands with operators between them; each division leaves fewer of them. -/
def arrange : Nat → Term → List (Operator × Term) → Term
  | 0, head, _ => head
  | depth + 1, head, tail =>
    let i := divide tail
    match tail[i]? with
    | none => head
    | some (op, next) =>
      op.join (arrange depth head (tail.take i)) (arrange depth next (tail.drop (i + 1)))

end Operator

/-- Reads from the head of a list of tokens. -/
abbrev Grammar := StateT (List Token) Option

namespace Grammar

def next : Grammar Token := do
  match ← get with
  | [] => failure
  | token :: rest => set rest; return token

def peek? : Grammar (Option Token) := do
  return (← get).head?

/-- Takes the next token if it is the given one. -/
def accept (token : Token) : Grammar Bool := do
  if (← peek?) = some token then
    let _ ← next
    return true
  else return false

def expect (token : Token) : Grammar Unit := do
  if !(← accept token) then failure

def expectVariable : Grammar String := do
  match ← next with
  | .variable name => return name
  | _ => failure

def keywords : List String :=
  ["import", "include", "def", "as", "if", "then", "elif", "else", "end", "reduce", "foreach", "try",
    "catch", "label", "and", "or"]

def verbatim (text : String) : Term :=
  .text [.verbatim text]

/-- The operator at the head, if there is one that needs nothing else. -/
def simpleOperator? (comma : Bool) : Token → Option Operator
  | .symbol "," => if comma then some .comma else none
  | .symbol text => Operator.ofSymbol? text
  | .word "or" => some .or
  | .word "and" => some .and
  | _ => none

/-- A variable name without its dollar sign. -/
def bare (name : String) : String :=
  (name.drop 1).toString

mutual
/-- A term; in an object a comma ends it. -/
def term : Nat → Bool → Grammar Term
  | 0, _ => failure
  | depth + 1, comma => do
    let head ← operand depth
    let tail ← operations depth comma
    return Operator.arrange tail.length head tail

def operations : Nat → Bool → Grammar (List (Operator × Term))
  | 0, _ => failure
  | depth + 1, comma => do
    match ← operator? depth comma with
    | none => return []
    | some op =>
      let t ← operand depth
      return (op, t) :: (← operations depth comma)

def operator? : Nat → Bool → Grammar (Option Operator)
  | 0, _ => failure
  | depth + 1, comma => do
    if ← accept (.word "as") then
      let p ← pattern depth
      expect (.symbol "|")
      return some (.pipe (some p))
    match (← peek?).bind (simpleOperator? comma) with
    | some op =>
      let _ ← next
      return some op
    | none => return none

/-- Terms between parentheses with semicolons, if there are any. -/
def arguments : Nat → Grammar (List Term)
  | 0 => failure
  | depth + 1 => do
    if ← accept (.opening '(') then argumentList depth else return []

def argumentList : Nat → Grammar (List Term)
  | 0 => failure
  | depth + 1 => do
    let t ← term depth true
    if ← accept (.symbol ";") then return t :: (← argumentList depth)
    expect (.closing ')')
    return [t]

/-- The pieces of a text after its opening quote. A format is applied to the holes. -/
def pieces : Nat → Option String → Grammar (List Piece)
  | 0, _ => failure
  | depth + 1, format => do
    match ← next with
    | .quote => return []
    | .piece text => return .verbatim text :: (← pieces depth format)
    | .holeStart =>
      let t ← term depth true
      expect .holeEnd
      let t := match format with
        | some name => .pipe t (.call name [])
        | none => t
      return .hole t :: (← pieces depth format)
    | _ => failure

def pattern : Nat → Grammar Pattern
  | 0 => failure
  | depth + 1 => do
    match ← next with
    | .variable name => return .variable name
    | .opening '[' => return .array (← patternItems depth)
    | .opening '{' => return .object (← patternMembers depth)
    | _ => failure

def patternItems : Nat → Grammar (List Pattern)
  | 0 => failure
  | depth + 1 => do
    let p ← pattern depth
    if ← accept (.symbol ",") then return p :: (← patternItems depth)
    expect (.closing ']')
    return [p]

def patternMembers : Nat → Grammar (List (Term × Pattern))
  | 0 => failure
  | depth + 1 => do
    let members ←
      match ← next with
      | .variable name =>
        let whole := (verbatim (bare name), Pattern.variable name)
        if ← accept (.symbol ":") then pure [whole, (verbatim (bare name), ← pattern depth)]
        else pure [whole]
      | .word name => do
        expect (.symbol ":")
        pure [(verbatim name, ← pattern depth)]
      | .quote => do
        let key ← pieces depth none
        expect (.symbol ":")
        pure [(.text key, ← pattern depth)]
      | .opening '(' => do
        let key ← term depth true
        expect (.closing ')')
        expect (.symbol ":")
        pure [(key, ← pattern depth)]
      | _ => failure
    if ← accept (.symbol ",") then return members ++ (← patternMembers depth)
    expect (.closing '}')
    return members

/-- The members of an object after its opening brace. A member without a value has that of the same
key in the input. -/
def members : Nat → Grammar (List (Term × Term))
  | 0 => failure
  | depth + 1 => do
    if ← accept (.closing '}') then return []
    let fromInput (key : Term) : Term × Term := (key, .path .identity [(.index key, false)])
    let (key, default) ←
      match ← next with
      | .variable name => pure (Term.variable name, (verbatim (bare name), Term.variable name))
      | .word name => pure (verbatim name, fromInput (verbatim name))
      | .quote => do
        let key := Term.text (← pieces depth none)
        pure (key, fromInput key)
      | .format name => do
        expect .quote
        let key := Term.text (← pieces depth (some name))
        pure (key, fromInput key)
      | .opening '(' => do
        let key ← term depth true
        expect (.closing ')')
        pure (key, fromInput key)
      | _ => failure
    let member ←
      if ← accept (.symbol ":") then pure (key, ← term depth false) else pure default
    if ← accept (.symbol ",") then
      if (← peek?) = some (.closing '}') then failure
      return member :: (← members depth)
    expect (.closing '}')
    return [member]

/-- What stands between brackets after a value. -/
def bracketed : Nat → Grammar Part
  | 0 => failure
  | depth + 1 => do
    if ← accept (.closing ']') then return .each
    if ← accept (.symbol ":") then
      let upper ← term depth true
      expect (.closing ']')
      return .slice none (some upper)
    let t ← term depth true
    if ← accept (.symbol ":") then
      if ← accept (.closing ']') then return .slice (some t) none
      let upper ← term depth true
      expect (.closing ']')
      return .slice (some t) (some upper)
    expect (.closing ']')
    return .index t

/-- The part that follows a value, if there is one. -/
def part? : Nat → Grammar (Option Part)
  | 0 => failure
  | depth + 1 => do
    match ← peek? with
    | some (.opening '[') =>
      let _ ← next
      return some (← bracketed depth)
    | some (.symbol ".") =>
      let _ ← next
      match ← next with
      | .opening '[' => return some (← bracketed depth)
      | .quote => return some (.index (.text (← pieces depth none)))
      | _ => failure
    | some (.symbol text) =>
      if text.startsWith "." && text != ".." then
        let _ ← next
        return some (.index (verbatim (bare text)))
      else return none
    | _ => return none

/-- The parts that follow a value, and the question marks after them. -/
def suffixes : Nat → Term → List (Part × Bool) → Grammar Term
  | 0, _, _ => failure
  | depth + 1, head, parts => do
    let whole : Term := if parts.isEmpty then head else .path head parts
    if ← accept (.symbol "?") then
      match parts.getLast? with
      | some (last, _) => suffixes depth head (parts.dropLast ++ [(last, true)])
      | none => suffixes depth (.handle head none) []
    else
      match ← part? depth with
      | some part => suffixes depth head (parts ++ [(part, false)])
      | none => return whole

/-- The branches of a condition after its first word. -/
def branches : Nat → Grammar Term
  | 0 => failure
  | depth + 1 => do
    let condition ← term depth true
    expect (.word "then")
    let yes ← term depth true
    match ← next with
    | .word "elif" => return .branch condition yes (← branches depth)
    | .word "else" =>
      let no ← term depth true
      expect (.word "end")
      return .branch condition yes no
    | .word "end" => return .branch condition yes .identity
    | _ => failure

def parameters : Nat → Grammar (List String)
  | 0 => failure
  | depth + 1 => do
    let name ←
      match ← next with
      | .word name => if name ∈ keywords then failure else pure name
      | .variable name => pure name
      | _ => failure
    if ← accept (.symbol ";") then return name :: (← parameters depth)
    expect (.closing ')')
    return [name]

/-- A definition after its first word. -/
def definition : Nat → Grammar Definition
  | 0 => failure
  | depth + 1 => do
    match ← next with
    | .word name =>
      if name ∈ keywords then failure
      let parameters ← if ← accept (.opening '(') then parameters depth else pure []
      expect (.symbol ":")
      let body ← term depth true
      expect (.symbol ";")
      return .mk name parameters body
    | _ => failure

def fold : Nat → FoldKind → Grammar Term
  | 0, _ => failure
  | depth + 1, kind => do
    let source ← operand depth
    expect (.word "as")
    let p ← pattern depth
    return .fold kind source p (← arguments depth)

def operand : Nat → Grammar Term
  | 0 => failure
  | depth + 1 => do
    match ← next with
    | .symbol "-" => return .negate (← operand depth)
    | .word "def" => return .define (← definition depth) (← term depth true)
    | .word "label" =>
      let name ← expectVariable
      expect (.symbol "|")
      return .label name (← term depth true)
    | .word "try" =>
      let body ← operand depth
      if ← accept (.word "catch") then return .handle body (some (← operand depth))
      return .handle body none
    | .word "if" => suffixes depth (← branches depth) []
    | .word "reduce" => suffixes depth (← fold depth .reduce) []
    | .word "foreach" => suffixes depth (← fold depth .each) []
    | .word "break" => suffixes depth (.leave (← expectVariable)) []
    | .word name =>
      if name ∈ keywords then failure
      suffixes depth (.call name (← arguments depth)) []
    | .variable name => suffixes depth (.variable name) []
    | .number spelling => suffixes depth (.number spelling) []
    | .quote => suffixes depth (.text (← pieces depth none)) []
    | .format name =>
      if ← accept .quote then suffixes depth (.text (← pieces depth (some name))) []
      else suffixes depth (.call name []) []
    | .symbol ".." => suffixes depth .recurse []
    | .symbol "." =>
      if ← accept .quote then
        suffixes depth .identity [(.index (.text (← pieces depth none)), false)]
      else suffixes depth .identity []
    | .symbol text =>
      if text.startsWith "." then suffixes depth .identity [(.index (verbatim (bare text)), false)]
      else failure
    | .opening '(' =>
      let t ← term depth true
      expect (.closing ')')
      suffixes depth t []
    | .opening '[' =>
      if ← accept (.closing ']') then suffixes depth (.array none) []
      else
        let t ← term depth true
        expect (.closing ']')
        suffixes depth (.array (some t)) []
    | .opening '{' => suffixes depth (.object (← members depth)) []
    | _ => failure
end

/-- Definitions to the end. -/
def definitions : Nat → Grammar (List Definition)
  | 0 => failure
  | depth + 1 => do
    if (← get).isEmpty then return []
    expect (.word "def")
    let d ← definition depth
    return d :: (← definitions depth)

/-- What a whole program reads as. No read goes deeper than a few levels a token. -/
def readAll {α : Type} (grammar : Nat → Grammar α) (program : String) : Option α := do
  let tokens ← Token.ofProgram program
  let (x, rest) ← grammar (8 * tokens.length + 8) tokens
  if rest.isEmpty then return x else none

end Grammar

/-- The term a program stands for, if it is one. -/
def Term.ofProgram (program : String) : Option Term :=
  Grammar.readAll (Grammar.term · true) program

end Exemplar.Filter

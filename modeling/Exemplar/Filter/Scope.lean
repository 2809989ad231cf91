import Exemplar.Filter.Term

/-! Names of a program that nothing defines. They are found before the program runs, in the order in
which they stand, arguments before the filter they are given to. -/
namespace Exemplar.Filter

inductive Undefined where
  | filter (name : String) (arity : Nat)
  | variable (name : String)
  | label (name : String)
  deriving DecidableEq

def Undefined.text : Undefined → String
  | .filter name arity => "`" ++ name ++ "`: Filter(" ++ toString arity ++ ")"
  | .variable name => "`" ++ name ++ "`: Var"
  | .label name => "`" ++ name ++ "`: Label"

/-- The names that may be used at some place. -/
structure Scope where
  filters : List (String × Nat)
  variableNames : List String
  labels : List String

namespace Scope

def withFilter (scope : Scope) (name : String) (arity : Nat) : Scope :=
  { scope with filters := (name, arity) :: scope.filters }

/-- A parameter is a filter, or a variable if it is written as one. -/
def withParameter (scope : Scope) (name : String) : Scope :=
  if name.startsWith "$" then { scope with variableNames := name :: scope.variableNames }
  else scope.withFilter name 0

mutual
/-- The variables of a pattern. -/
def patternVariables : Pattern → List String
  | .variable name => [name]
  | .array items => itemVariables items
  | .object members => memberVariables members

def itemVariables : List Pattern → List String
  | [] => []
  | p :: rest => patternVariables p ++ itemVariables rest

def memberVariables : List (Term × Pattern) → List String
  | [] => []
  | (_, p) :: rest => patternVariables p ++ memberVariables rest
end

def withPattern (scope : Scope) (p : Pattern) : Scope :=
  { scope with variableNames := patternVariables p ++ scope.variableNames }

mutual
def undefined (scope : Scope) : Term → List Undefined
  | .identity => []
  | .recurse => []
  | .number _ => []
  | .text pieces => undefinedPieces scope pieces
  | .array none => []
  | .array (some t) => undefined scope t
  | .object members => undefinedMembers scope members
  | .negate t => undefined scope t
  | .pipe l r => undefined scope l ++ undefined scope r
  | .bindAs source pattern body =>
    undefined scope source ++ undefinedPattern scope pattern ++
      undefined (scope.withPattern pattern) body
  | .comma l r => undefined scope l ++ undefined scope r
  | .orElse l r => undefined scope l ++ undefined scope r
  | .logic _ l r => undefined scope l ++ undefined scope r
  | .compare _ l r => undefined scope l ++ undefined scope r
  | .math _ l r => undefined scope l ++ undefined scope r
  | .assign l r => undefined scope l ++ undefined scope r
  | .update l r => undefined scope l ++ undefined scope r
  | .updateMath _ l r => undefined scope l ++ undefined scope r
  | .updateOrElse l r => undefined scope l ++ undefined scope r
  | .branch condition yes no =>
    undefined scope condition ++ undefined scope yes ++ undefined scope no
  | .handle body none => undefined scope body
  | .handle body (some handler) => undefined scope body ++ undefined scope handler
  | .fold kind source pattern arguments =>
    let inner := scope.withPattern pattern
    undefined scope source ++ undefinedPattern scope pattern ++
      match kind, arguments with
      | _, [start, step] => undefined scope start ++ undefined inner step
      | .each, [start, step, emit] =>
        undefined scope start ++ undefined inner step ++ undefined inner emit
      | _, _ => [.filter kind.word arguments.length]
  | .label name body => undefined { scope with labels := name :: scope.labels } body
  | .leave name => if name ∈ scope.labels then [] else [.label name]
  | .call name arguments =>
    undefinedTerms scope arguments ++
      if (name, arguments.length) ∈ scope.filters then [] else [.filter name arguments.length]
  | .variable name => if name ∈ scope.variableNames then [] else [.variable name]
  | .path head parts => undefined scope head ++ undefinedParts scope parts
  | .define d body =>
    undefinedDefinition scope d ++ undefined (scope.withFilter d.name d.parameters.length) body

def undefinedTerms (scope : Scope) : List Term → List Undefined
  | [] => []
  | t :: rest => undefined scope t ++ undefinedTerms scope rest

def undefinedPieces (scope : Scope) : List Piece → List Undefined
  | [] => []
  | .verbatim _ :: rest => undefinedPieces scope rest
  | .hole t :: rest => undefined scope t ++ undefinedPieces scope rest

def undefinedMembers (scope : Scope) : List (Term × Term) → List Undefined
  | [] => []
  | (k, v) :: rest => undefined scope k ++ undefined scope v ++ undefinedMembers scope rest

def undefinedParts (scope : Scope) : List (Part × Bool) → List Undefined
  | [] => []
  | (part, _) :: rest => undefinedPart scope part ++ undefinedParts scope rest

def undefinedPart (scope : Scope) : Part → List Undefined
  | .each => []
  | .index t => undefined scope t
  | .slice none none => []
  | .slice (some t) none => undefined scope t
  | .slice none (some t) => undefined scope t
  | .slice (some t) (some u) => undefined scope t ++ undefined scope u

def undefinedPattern (scope : Scope) : Pattern → List Undefined
  | .variable _ => []
  | .array items => undefinedPatterns scope items
  | .object members => undefinedPatternMembers scope members

def undefinedPatterns (scope : Scope) : List Pattern → List Undefined
  | [] => []
  | p :: rest => undefinedPattern scope p ++ undefinedPatterns scope rest

def undefinedPatternMembers (scope : Scope) : List (Term × Pattern) → List Undefined
  | [] => []
  | (k, p) :: rest =>
    undefined scope k ++ undefinedPattern scope p ++ undefinedPatternMembers scope rest

/-- A definition may use itself. -/
def undefinedDefinition (scope : Scope) : Definition → List Undefined
  | .mk name parameters body =>
    undefined (parameters.foldl withParameter (scope.withFilter name parameters.length)) body
end

end Scope

end Exemplar.Filter

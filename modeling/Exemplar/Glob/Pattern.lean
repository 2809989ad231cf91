import Exemplar.Files.Path

/-! Patterns for file names: `?` stands for a character, `*` for any text, brackets for a character
of a set. As a whole component of a path `**` stands for any number of folders. -/
namespace Exemplar.Glob

/-- Characters from the first to the second. -/
abbrev Span := Char × Char

/-- What a pattern asks of a text, piece by piece. -/
inductive Token where
  | char (c : Char)
  | anyChar
  | anyText
  | oneOf (set : List Span)
  | noneOf (set : List Span)
  /-- Any number of folders. -/
  | anyFolders
  deriving DecidableEq

/-- Why a text is no pattern. -/
inductive Fault where
  | tooManyStars
  | partOfComponent
  | badRange
  deriving DecidableEq

def Fault.message : Fault → String
  | tooManyStars => "wildcards are either regular `*` or recursive `**`"
  | partOfComponent => "recursive wildcards must form a single path component"
  | badRange => "invalid range pattern"

/-- What is wrong with a pattern, and after how many characters. -/
structure PatternError where
  position : Nat
  fault : Fault
  deriving DecidableEq

def PatternError.message (e : PatternError) : String :=
  "Pattern syntax error near position " ++ toString e.position ++ ": " ++ e.fault.message

/-- The set between brackets: characters, and ranges with a hyphen between two characters. -/
def spans : List Char → List Span
  | first :: '-' :: last :: rest => (first, last) :: spans rest
  | c :: rest => (c, c) :: spans rest
  | [] => []

/-- The characters up to the closing bracket, and the rest after it. -/
def untilClosed : List Char → Option (List Char × List Char)
  | [] => none
  | c :: rest =>
    if c = ']' then some ([], rest)
    else (untilClosed rest).map fun (inside, after) => (c :: inside, after)

/-- A bracketed set from behind its opening bracket. A set is not empty: its first character may be
a closing bracket. -/
def bracketed : List Char → Option (Token × List Char)
  | '!' :: first :: rest =>
    (untilClosed rest).map fun (inside, after) => (.noneOf (spans (first :: inside)), after)
  | ['!'] => none
  | first :: rest =>
    (untilClosed rest).map fun (inside, after) => (.oneOf (spans (first :: inside)), after)
  | [] => none

theorem length_untilClosed {text inside after : List Char}
    (h : untilClosed text = some (inside, after)) : after.length < text.length := by
  induction text generalizing inside with
  | nil => simp [untilClosed] at h
  | cons c rest ih =>
    by_cases closed : c = ']'
    · simp only [untilClosed, closed, ↓reduceIte, Option.some.injEq, Prod.mk.injEq] at h
      simp [h.2]
    · simp only [untilClosed, closed, ↓reduceIte, Option.map_eq_some_iff] at h
      obtain ⟨⟨front, rear⟩, found, same⟩ := h
      cases same
      exact Nat.lt_succ_of_lt (ih found)

theorem length_bracketed {text after : List Char} {t : Token}
    (h : bracketed text = some (t, after)) : after.length < text.length := by
  unfold bracketed at h
  split at h
  · obtain ⟨⟨_, _⟩, found, same⟩ := Option.map_eq_some_iff.mp h
    cases same
    have := length_untilClosed found
    simp only [List.length_cons]
    omega
  · simp at h
  · obtain ⟨⟨_, _⟩, found, same⟩ := Option.map_eq_some_iff.mp h
    cases same
    have := length_untilClosed found
    simp only [List.length_cons]
    omega
  · simp at h

/-- The token of a star, from behind it. Two stars have to stand between slashes or the ends of the
pattern, and take the slash after them; `opens` says that there is no name before them. -/
def star (start : Nat) (opens : Bool) : List Char → Except PatternError (Token × List Char)
  | '*' :: '*' :: _ => .error ⟨start + 2, .tooManyStars⟩
  | '*' :: rest =>
    if opens then
      match rest with
      | [] => .ok (.anyFolders, [])
      | '/' :: after => .ok (.anyFolders, after)
      | _ => .error ⟨start + 2, .partOfComponent⟩
    else .error ⟨start - 1, .partOfComponent⟩
  | rest => .ok (.anyText, rest)

/-- The token that starts with a character, and the text after it. -/
def token (start : Nat) (opens : Bool) (c : Char) (rest : List Char) :
    Except PatternError (Token × List Char) :=
  if c = '?' then .ok (.anyChar, rest)
  else if c = '*' then star start opens rest
  else if c = '[' then
    match bracketed rest with
    | some found => .ok found
    | none => .error ⟨start, .badRange⟩
  else .ok (.char c, rest)

theorem length_star {start : Nat} {opens : Bool} {rest after : List Char} {t : Token}
    (h : star start opens rest = .ok (t, after)) : after.length ≤ rest.length := by
  unfold star at h
  split at h
  · cases h
  · split at h
    · split at h <;> cases h <;> simp
      omega
    · cases h
  · cases h
    exact Nat.le_refl _

theorem length_token {start : Nat} {opens : Bool} {c : Char} {rest after : List Char} {t : Token}
    (h : token start opens c rest = .ok (t, after)) : after.length ≤ rest.length := by
  unfold token at h
  split at h
  · cases h
    exact Nat.le_refl _
  split at h
  · exact length_star h
  split at h
  · split at h
    · rename_i found bracket
      cases h
      exact Nat.le_of_lt (length_bracketed bracket)
    · cases h
  · cases h
    exact Nat.le_refl _

/-- Whether a component of a path starts after a token. -/
def Token.closes : Token → Bool
  | char c => c = '/'
  | anyFolders => true
  | _ => false

/-- The tokens of a pattern from the character `start` on. -/
def tokensFrom (start : Nat) (opens : Bool) : List Char → Except PatternError (List Token)
  | [] => .ok []
  | c :: rest =>
    match h : token start opens c rest with
    | .error e => .error e
    | .ok (t, after) => do
      let further ← tokensFrom (start + 1 + (rest.length - after.length)) t.closes after
      return t :: further
termination_by text => text.length
decreasing_by
  have := length_token h
  simp only [List.length_cons]
  omega

/-- The tokens of a pattern. -/
def tokens (pattern : String) : Except PatternError (List Token) :=
  tokensFrom 0 true pattern.toList

/-- The ends of a text, the whole text first. -/
def suffixes : List Char → List (List Char)
  | [] => [[]]
  | c :: rest => (c :: rest) :: suffixes rest

/-- Whether a character lies in one of the spans. -/
def inSet (set : List Span) (c : Char) : Bool :=
  set.any fun (first, last) => first ≤ c && c ≤ last

/-- Whether a token that stands for one character stands for this one. -/
def Token.accepts : Token → Char → Bool
  | char expected, c => expected = c
  | anyChar, _ => true
  | oneOf set, c => inSet set c
  | noneOf set, c => !inSet set c
  | anyText, _ => false
  | anyFolders, _ => false

/-- Whether tokens stand for exactly this text. -/
def covers : List Token → List Char → Bool
  | [], text => text.isEmpty
  | .anyText :: rest, text => (suffixes text).any (covers rest)
  | .anyFolders :: rest, text => (suffixes text).any (covers rest)
  | t :: rest, c :: text => t.accepts c && covers rest text
  | _ :: _, [] => false

/-- A component of a path pattern. -/
inductive Component where
  | anyFolders
  /-- Spelled out, without any wildcard. -/
  | literal (name : String)
  | wild (tokens : List Token)
  deriving DecidableEq

/-- The name that tokens spell out. -/
def literal? : List Token → Option (List Char)
  | [] => some []
  | .char c :: rest => (literal? rest).map (c :: ·)
  | _ => none

def Component.ofTokens (tokens : List Token) : Component :=
  if tokens = [.anyFolders] then anyFolders
  else
    match literal? tokens with
    | some name => literal (String.ofList name)
    | none => wild tokens

namespace Component

/-- Whether something of this name may stand for the component. -/
def accepts : Component → String → Bool
  | anyFolders, _ => true
  | literal expected, name => expected = name
  | wild tokens, name => covers tokens name.toList

/-- `.` and `..` stand for a component with wildcards only if it starts with a dot itself. -/
def specialNames : Component → List String
  | wild (.char '.' :: rest) => ["..", "."].filter (wild (.char '.' :: rest)).accepts
  | _ => []

end Component

/-- Several components for any number of folders in a row say no more than one. -/
def merge : List Component → List Component
  | .anyFolders :: rest =>
    match merge rest with
    | .anyFolders :: rest => .anyFolders :: rest
    | rest => .anyFolders :: rest
  | c :: rest => c :: merge rest
  | [] => []

/-- The parts between slashes, without the ones that a slash at the start or the end leaves. -/
def parts (pattern : String) : List String :=
  let parts := Path.parts pattern
  let parts := if Path.isAbsolute pattern then parts.tail else parts
  if parts.getLast? = some "" then parts.dropLast else parts

/-- The components of a path pattern. The whole is checked before its parts. -/
def parse (pattern : String) : Except PatternError (List Component) := do
  discard (tokens pattern)
  let readings ← (parts pattern).mapM tokens
  return merge (readings.map Component.ofTokens)

end Exemplar.Glob

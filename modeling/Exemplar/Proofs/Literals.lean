import Exemplar.Declaration.CSharp
import Exemplar.Declaration.Rust
import Exemplar.Json.Lexeme

/-!
# String literals read back

A literal is read from its opening quote on, character by character, by the rules of its language, up
to the first quote that is not escaped. If each character of a text is written so that it is read
back, then so is the whole text, and the literal ends where it was meant to end.
-/
namespace Exemplar.Declaration

/-- How a character is written by its code point, after a backslash and a `u`. -/
inductive CodeForm where
  /-- Up to six hexadecimal digits in braces. -/
  | braced
  /-- Four hexadecimal digits. -/
  | fourDigits
  deriving DecidableEq

/-- The string literals of a language. -/
structure LiteralRules where
  /-- Characters that no literal holds as they are. -/
  excluded : List Char
  /-- The letters that may follow a backslash, with the characters they stand for. -/
  letters : List (Char × Char)
  codeForm : CodeForm

/-- What has been read of the next character of a literal. -/
inductive Partial where
  | nothing
  | backslash
  /-- A code point is to follow in braces. -/
  | letter
  /-- The value of the digits so far, and how many they are. -/
  | digits (code count : Nat)

namespace LiteralRules

/-- What follows the `u` of an escape. -/
def afterLetter (rules : LiteralRules) : Partial :=
  match rules.codeForm with
  | .braced => .letter
  | .fourDigits => .digits 0 0

/-- The character before what was read after it, if there is such a character. -/
def before (c? : Option Char) (read : Option (List Char × List Char)) :
    Option (List Char × List Char) := do
  let c ← c?
  let (text, rest) ← read
  return (c :: text, rest)

def charOf? (code : Nat) : Option Char :=
  if code.isValidChar then some (Char.ofNat code) else none

/-- Reads a literal up to its closing quote: the text it stands for, and what follows the quote. -/
def read (rules : LiteralRules) : Partial → List Char → Option (List Char × List Char)
  | _, [] => none
  | .nothing, c :: rest =>
    if c = '"' then some ([], rest)
    else if c = '\\' then rules.read .backslash rest
    else if c ∈ rules.excluded then none
    else before (some c) (rules.read .nothing rest)
  | .backslash, c :: rest =>
    if c = 'u' then rules.read rules.afterLetter rest
    else before (rules.letters.lookup c) (rules.read .nothing rest)
  | .letter, c :: rest => if c = '{' then rules.read (.digits 0 0) rest else none
  | .digits code count, c :: rest =>
    match Json.Lexeme.hexValue? c with
    | some digit =>
      let code := 16 * code + digit
      if rules.codeForm = .fourDigits ∧ count = 3 then
        before (charOf? code) (rules.read .nothing rest)
      else rules.read (.digits code (count + 1)) rest
    | none =>
      if rules.codeForm = .braced ∧ c = '}' ∧ 0 < count ∧ count ≤ 6 then
        before (charOf? code) (rules.read .nothing rest)
      else none

/-- The text of a literal with nothing after it. -/
def textOf? (rules : LiteralRules) (literal : String) : Option String :=
  match literal.toList with
  | '"' :: quoted =>
    match rules.read .nothing quoted with
    | some (text, []) => some (String.ofList text)
    | _ => none
  | _ => none

variable (rules : LiteralRules)

theorem read_self {c : Char} (plain : c ≠ '"' ∧ c ≠ '\\' ∧ c ∉ rules.excluded) (rest : List Char) :
    rules.read .nothing (c :: rest) = before (some c) (rules.read .nothing rest) := by
  simp [read, plain]

theorem read_letter {letter c : Char} (meant : rules.letters.lookup letter = some c)
    (other : letter ≠ 'u') (rest : List Char) :
    rules.read .nothing ('\\' :: letter :: rest) = before (some c) (rules.read .nothing rest) := by
  simp [read, meant, other]

theorem charOf?_toNat (c : Char) : charOf? c.toNat = some c := by
  have valid : c.toNat.isValidChar := c.valid
  rw [charOf?, if_pos valid, Char.ofNat_toNat]

theorem hexValue?_digitChar {digit : Nat} (h : digit < 16) :
    Json.Lexeme.hexValue? (Nat.digitChar digit) = some digit := by
  have all : ∀ digit < 16, Json.Lexeme.hexValue? (Nat.digitChar digit) = some digit := by decide
  exact all digit h

/-- The digits of a number give the number. -/
theorem read_digits (braced : rules.codeForm = .braced) (n : Nat) (rest : List Char) :
    rules.read (.digits 0 0) (Nat.toDigits 16 n ++ rest)
      = rules.read (.digits n (Nat.toDigits 16 n).length) rest := by
  induction n using Nat.strongRecOn generalizing rest with
  | ind n ih =>
    by_cases small : n < 16
    · simp [Nat.toDigits_of_lt_base small, read, hexValue?_digitChar small, braced]
    · have last : n % 16 < 16 := Nat.mod_lt n (by decide)
      have value : 16 * (n / 16) + n % 16 = n := Nat.div_add_mod n 16
      rw [Nat.toDigits_of_base_le (by decide) (by omega), List.append_assoc, ih (n / 16) (by omega)]
      simp [read, hexValue?_digitChar last, braced, value]

/-- The code point of a character in braces gives the character. -/
theorem read_braced (braced : rules.codeForm = .braced) (c : Char) (rest : List Char) :
    rules.read .nothing ('\\' :: 'u' :: '{' :: (Nat.toDigits 16 c.toNat ++ '}' :: rest))
      = before (some c) (rules.read .nothing rest) := by
  have some : 0 < (Nat.toDigits 16 c.toNat).length := Nat.length_toDigits_pos
  have six : (Nat.toDigits 16 c.toNat).length ≤ 6 := by
    rw [Nat.length_toDigits_le_iff (by decide) (by decide)]
    have valid : c.toNat.isValidChar := c.valid
    rcases valid with low | ⟨_, high⟩ <;> omega
  have open' : rules.read .nothing ('\\' :: 'u' :: '{' :: (Nat.toDigits 16 c.toNat ++ '}' :: rest))
      = rules.read (.digits 0 0) (Nat.toDigits 16 c.toNat ++ '}' :: rest) := by
    simp [read, afterLetter, braced]
  have close : Json.Lexeme.hexValue? '}' = none := by decide
  rw [open', rules.read_digits braced, read, close]
  simp [braced, some, six, charOf?_toNat]

/-- A code point below 256 in four digits gives its character. -/
theorem read_fourDigits (four : rules.codeForm = .fourDigits) {c : Char} (small : c.toNat < 256)
    (rest : List Char) :
    rules.read .nothing ('\\' :: 'u' :: '0' :: '0' ::
        Nat.digitChar (c.toNat / 16) :: Nat.digitChar (c.toNat % 16) :: rest)
      = before (some c) (rules.read .nothing rest) := by
  have zero : Json.Lexeme.hexValue? '0' = some 0 := by decide
  have high : c.toNat / 16 < 16 := by omega
  have low : c.toNat % 16 < 16 := Nat.mod_lt _ (by decide)
  have value : 16 * (c.toNat / 16) + c.toNat % 16 = c.toNat := Nat.div_add_mod _ 16
  simp [read, afterLetter, four, zero, hexValue?_digitChar high, hexValue?_digitChar low, value,
    charOf?_toNat]

/-- A text is read back if each of its characters is. -/
theorem read_flatMap {escape : Char → List Char} {text : List Char}
    (each : ∀ c ∈ text, ∀ rest,
      rules.read .nothing (escape c ++ rest) = before (some c) (rules.read .nothing rest))
    (rest : List Char) :
    rules.read .nothing (text.flatMap escape ++ '"' :: rest) = some (text, rest) := by
  induction text with
  | nil => rfl
  | cons c text ih =>
    rw [List.flatMap_cons, List.append_assoc, each c List.mem_cons_self,
      ih fun d hd => each d (List.mem_cons_of_mem c hd)]
    rfl

end LiteralRules

namespace Rust

/-- A literal may run over lines, but a carriage return has to be escaped. -/
def literals : LiteralRules where
  excluded := ['\r']
  letters :=
    [('0', '\x00'), ('t', '\t'), ('r', '\r'), ('n', '\n'), ('\\', '\\'), ('"', '"'), ('\'', '\'')]
  codeForm := .braced

theorem read_escapeChar (c : Char) (rest : List Char) :
    literals.read .nothing (escapeChar c ++ rest)
      = LiteralRules.before (some c) (literals.read .nothing rest) := by
  unfold escapeChar
  split
  case h_7 =>
    split
    · simpa [hexEscape] using literals.read_braced rfl c rest
    · refine literals.read_self ?_ rest
      simp_all [literals]
  all_goals exact literals.read_letter rfl (by decide) rest

/-- The literal of a text is read as the text, whatever stands in it and whatever follows. -/
theorem read_literal (text : List Char) (rest : List Char) :
    literals.read .nothing (text.flatMap escapeChar ++ '"' :: rest) = some (text, rest) :=
  literals.read_flatMap (fun c _ => read_escapeChar c) rest

end Rust

namespace CSharp

/-- Literals with no character of `excluded` in them. -/
def literalsWithout (excluded : List Char) : LiteralRules where
  excluded := excluded
  letters :=
    [('\'', '\''), ('"', '"'), ('\\', '\\'), ('0', '\x00'), ('a', '\x07'), ('b', '\x08'),
      ('f', '\x0c'), ('n', '\n'), ('r', '\r'), ('t', '\t'), ('v', '\x0b')]
  codeForm := .fourDigits

/-- The line separator and the paragraph separator, which end a line but are no control characters. -/
def separators : List Char := ['\u2028', '\u2029']

def lineBreaks : List Char := ['\n', '\r', '\u0085'] ++ separators

/-- A literal ends on the line on which it begins. -/
def literals : LiteralRules :=
  literalsWithout lineBreaks

theorem isControl_of_mem_lineBreaks {c : Char} (h : c ∈ lineBreaks) (plain : c ∉ separators) :
    isControl c = true := by
  have others : ∀ c ∈ ['\n', '\r', '\u0085'], isControl c = true := by
    simp only [List.forall_mem_cons]
    exact ⟨rfl, rfl, rfl, nofun⟩
  exact others c ((List.mem_append.mp h).resolve_right plain)

/-- A character that is excluded is read back if it is escaped, and all others are anyway. -/
theorem read_escapeChar {excluded : List Char} {c : Char}
    (escaped : c ∈ excluded → isControl c = true) (rest : List Char) :
    (literalsWithout excluded).read .nothing (escapeChar c ++ rest)
      = LiteralRules.before (some c) ((literalsWithout excluded).read .nothing rest) := by
  unfold escapeChar
  split
  case h_6 =>
    split
    · rename_i control
      have small : c.toNat < 256 := by
        simp only [isControl, Bool.or_eq_true, Bool.and_eq_true, decide_eq_true_eq] at control
        omega
      simpa using (literalsWithout excluded).read_fourDigits rfl small rest
    · rename_i plain
      refine (literalsWithout excluded).read_self ?_ rest
      exact ⟨by simp_all, by simp_all, fun he => plain (escaped he)⟩
  all_goals exact (literalsWithout excluded).read_letter rfl (by decide) rest

theorem read_separator {c : Char} (h : c ∈ separators) (rest : List Char) :
    literals.read .nothing (escapeChar c ++ rest) = none := by
  simp only [separators, List.mem_cons, List.not_mem_nil, or_false] at h
  rcases h with rfl | rfl <;> rfl

/-- The literal of a text is read as the text if no separator stands in it. -/
theorem read_literal {text : List Char} (plain : ∀ c ∈ text, c ∉ separators) (rest : List Char) :
    literals.read .nothing (text.flatMap escapeChar ++ '"' :: rest) = some (text, rest) := by
  refine literals.read_flatMap ?_ rest
  intro c hc
  exact read_escapeChar fun excluded => isControl_of_mem_lineBreaks excluded (plain c hc)

/-- With a separator in it the text has no literal. -/
theorem read_literal_eq_none {text : List Char} {c : Char} (hc : c ∈ text) (h : c ∈ separators)
    (rest : List Char) : literals.read .nothing (text.flatMap escapeChar ++ '"' :: rest) = none := by
  induction text with
  | nil => cases hc
  | cons first text ih =>
    rw [List.flatMap_cons, List.append_assoc]
    by_cases separates : first ∈ separators
    · exact read_separator separates _
    · have later := (List.mem_cons.mp hc).resolve_left fun same => separates (same ▸ h)
      have escaped (excluded : first ∈ lineBreaks) : isControl first = true :=
        isControl_of_mem_lineBreaks excluded separates
      rw [literals, read_escapeChar escaped, ← literals, ih later]
      rfl

/-- But for the separators, the literal of a text stands for the text. -/
theorem read_literal_overLines (text rest : List Char) :
    (literalsWithout []).read .nothing (text.flatMap escapeChar ++ '"' :: rest)
      = some (text, rest) :=
  (literalsWithout []).read_flatMap (fun _ _ => read_escapeChar nofun) rest

end CSharp

end Exemplar.Declaration

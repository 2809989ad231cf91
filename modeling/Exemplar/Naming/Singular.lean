import Exemplar.Naming.Words

/-! English plurals turned into singulars. Only the last word of a key changes. Words without a
singular of their own come first, then irregular ones, then rules on the ending in a fixed order; a
word that none of them knows stays as it is. -/
namespace Exemplar.Naming.Singular
open Unicode

def uncountable : List String :=
  ["data", "metadata", "equipment", "information", "rice", "money", "species", "series", "fish",
    "sheep", "deer", "news", "moose", "offspring", "aircraft", "luggage", "feedback", "software",
    "hardware", "media"]

/-- Plurals with their singulars. -/
def irregular : List (String × String) :=
  [("people", "person"), ("men", "man"), ("women", "woman"), ("children", "child"),
    ("teeth", "tooth"), ("feet", "foot"), ("geese", "goose"), ("mice", "mouse"), ("oxen", "ox"),
    ("criteria", "criterion"), ("phenomena", "phenomenon")]

/-- What has to stand before the tail that a rule replaces. -/
inductive Stem where
  | any
  /-- It ends in one of these. -/
  | ending (choices : List String)
  /-- It is one of these. -/
  | whole (choices : List String)
  /-- It ends in a character that is none of these. -/
  | notAfter (letters : List Char)
  | either (a b : Stem)

/-- Replaces `tail` by `singular` after a fitting stem. -/
structure Rule where
  stem : Stem
  tail : String
  singular : String

/-- The first rule that applies is taken. -/
def rules : List Rule :=
  [⟨.ending ["quiz"], "zes", ""⟩,
    ⟨.ending ["matr"], "ices", "ix"⟩,
    ⟨.ending ["vert", "ind"], "ices", "ex"⟩,
    ⟨.ending ["alias", "status", "campus", "census", "virus", "bus"], "es", ""⟩,
    ⟨.ending ["octop", "alumn", "fung", "cact", "radi", "stimul", "syllab", "nucle"], "i", "us"⟩,
    ⟨.whole ["cris", "ax", "test"], "es", "is"⟩,
    ⟨.ending ["shoe", "toe"], "s", ""⟩,
    ⟨.ending ["her", "potat", "tomat", "ech", "vet"], "oes", "o"⟩,
    ⟨.ending ["x", "ch", "ss", "sh", "zz"], "es", ""⟩,
    ⟨.ending ["movie", "cookie", "zombie", "selfie", "rookie", "calorie"], "s", ""⟩,
    ⟨.either (.notAfter ['a', 'e', 'i', 'o', 'u', 'y']) (.ending ["qu"]), "ies", "y"⟩,
    ⟨.ending ["lea", "loa", "thie", "shea"], "ves", "f"⟩,
    ⟨.ending ["l", "r"], "ves", "f"⟩,
    ⟨.ending ["hive", "tive", "drive", "curve", "valve", "groove", "move", "glove"], "s", ""⟩,
    ⟨.notAfter ['f'], "ves", "fe"⟩,
    ⟨.whole ["analy", "ba", "diagno", "parenthe", "progno", "synop", "the"], "ses", "sis"⟩,
    ⟨.ending ["ss", "us", "is"], "", ""⟩,
    ⟨.any, "s", ""⟩]

/-- Characters that differ only in case are one to the rules. The long s and the Kelvin sign are the
only ones outside ASCII that fold to an ASCII letter. -/
def fold (c : Char) : Char :=
  if 'A' ≤ c && c ≤ 'Z' then Char.ofNat (c.toNat + 32)
  else if c = '\u017f' then 's'
  else if c = '\u212a' then 'k'
  else c

/-- Whether a folded text ends in an ending. -/
def endsIn (text : List Char) (ending : String) : Bool :=
  ending.toList.isSuffixOf text

/-- Whether a folded text may stand before the tail. -/
def Stem.admits (text : List Char) : Stem → Bool
  | any => true
  | ending choices => choices.any (endsIn text)
  | whole choices => choices.any (·.toList == text)
  | notAfter letters => text.getLast?.any (· ∉ letters)
  | either a b => a.admits text || b.admits text

/-- The word with its tail replaced, if the rule applies. -/
def Rule.replaced? (rule : Rule) (word : List Char) : Option (List Char) :=
  let stem := word.take (word.length - rule.tail.length)
  if endsIn (word.map fold) rule.tail && rule.stem.admits (stem.map fold) then
    some (stem ++ rule.singular.toList)
  else none

/-- Where the last word starts: after the last separator, or at the last upper-case letter that
follows a lower-case letter or a digit. -/
def lastWordFrom (start position : Nat) (previous : Option Char) : List Char → Nat
  | [] => start
  | c :: rest =>
    let start :=
      if c ∈ separators then position + 1
      else if isUpper c && previous.any (fun p => isLower p || isAsciiDigit p) then position
      else start
    lastWordFrom start (position + 1) (some c) rest

def lastWordStart (key : List Char) : Nat :=
  lastWordFrom 0 0 none key

/-- The replacement in capitals if the word has more than one character and none in lower case,
capitalized if the word is. -/
def matchCase (word replacement : List Char) : List Char :=
  if word.length > 1 && word.all (!isLower ·) then replacement.flatMap upper
  else if word.head?.any isUpper then capitalize replacement
  else replacement

/-- The singular of a single word. -/
def ofWord (word : List Char) : List Char :=
  let plain := String.ofList (word.flatMap lower)
  if plain ∈ uncountable then word
  else
    match irregular.lookup plain with
    | some singular => matchCase word singular.toList
    | none => (rules.findSome? (·.replaced? word)).getD word

/-- The key with its last word in the singular. -/
def ofKey (key : List Char) : List Char :=
  let start := lastWordStart key
  key.take start ++ ofWord (key.drop start)

end Singular

/-- The singular of a key that names several things. -/
def singular (key : String) : String :=
  String.ofList (Singular.ofKey key.toList)

end Exemplar.Naming

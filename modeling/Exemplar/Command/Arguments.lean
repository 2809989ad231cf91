import Exemplar.Declaration.File

/-! The arguments of a command line: a command, and options in any order.

An option is spelled `--name` or by a letter after a hyphen, and letters may share a hyphen. A
setting takes its value from the same argument, after an equals sign or right after its letter, or
else from the next arguments; a switch takes none. -/
namespace Exemplar.Command

/-- What is to be written. -/
inductive Product where
  | declarations (target : Target)
  /-- The class model as JSON: of all documents, or an array with one of each. -/
  | model (perDocument : Bool)
  deriving DecidableEq

/-- A command with its options. -/
structure Job where
  /-- Paths, patterns, or `-` for the standard input. -/
  inputs : List String
  pointer : Option String
  filter : Option String
  rootType : String
  /-- The file to be written, instead of the standard output. -/
  out : Option String
  product : Product
  deriving DecidableEq

/-- The commands. -/
inductive Name where
  | rust
  | csharp
  | model
  deriving DecidableEq

def Name.ofText? (text : String) : Option Name :=
  if text = "rust" then some .rust
  else if text = "csharp" then some .csharp
  else if text = "model" then some .model
  else none

/-- The options with values. -/
inductive Setting where
  | input
  | pointer
  | filter
  | rootType
  | out
  | space
  deriving DecidableEq

def Setting.spelling : Setting → String
  | input => "input"
  | pointer => "json-pointer"
  | filter => "jq-expr"
  | rootType => "root-type"
  | out => "out"
  | space => "namespace"

/-- Whether a setting that has these values takes one more. Only inputs may be several. -/
def Setting.takesMore (setting : Setting) (values : List String) : Bool :=
  setting = .input || values.isEmpty

/-- The options without a value. -/
inductive Switch where
  | verbose
  | help
  | version
  | perDocument
  deriving DecidableEq

def Switch.spelling : Switch → String
  | verbose => "verbose"
  | help => "help"
  | version => "version"
  | perDocument => "per-document"

inductive Flag where
  | setting (setting : Setting)
  | switch (switch : Switch)
  deriving DecidableEq

def Flag.spelling : Flag → String
  | setting s => s.spelling
  | switch s => s.spelling

/-- The options that a command knows, or that stand before any command. -/
def flags : Option Name → List Flag
  | none => [.switch .verbose, .switch .help, .switch .version]
  | some name =>
    let own : List Flag :=
      match name with
      | .rust => []
      | .csharp => [.setting .space]
      | .model => [.switch .perDocument]
    [.switch .verbose, .switch .help, .setting .input, .setting .pointer, .setting .filter,
      .setting .rootType, .setting .out] ++ own

/-- The letter of an option that has one. -/
def Flag.letter? : Flag → Option Char
  | .switch .verbose => some 'v'
  | .switch .help => some 'h'
  | .switch .version => some 'V'
  | .setting .input => some 'i'
  | .setting .out => some 'o'
  | _ => none

/-- Why the arguments ask for nothing that can be done. -/
inductive UsageError where
  | noCommand
  | unknownCommand (text : String)
  | unexpectedArgument (text : String)
  | unexpectedValue (switch : Switch)
  | noValue (setting : Setting)
  | emptyPath
  | repeated (flag : Flag)
  | noInput
  deriving DecidableEq

def UsageError.message : UsageError → String
  | noCommand => "a command is required: rust, csharp or model"
  | unknownCommand text => "unrecognized command: " ++ text
  | unexpectedArgument text => "unexpected argument: " ++ text
  | unexpectedValue switch => "--" ++ switch.spelling ++ " takes no value"
  | noValue setting => "--" ++ setting.spelling ++ " needs a value"
  | emptyPath => "--out needs a path"
  | repeated flag => "--" ++ flag.spelling ++ " is given more than once"
  | noInput => "--input is required"

/-- What the arguments ask for. -/
inductive Request where
  | help
  | version
  | run (job : Job)
  | unusable (error : UsageError)
  deriving DecidableEq

/-- How an argument reads by its first characters. -/
inductive Word where
  /-- Two hyphens: no option follows. -/
  | escape
  | long (name : String) (value : Option String)
  | letters (letters : List Char)
  | plain
  deriving DecidableEq

/-- The text before the first equals sign, and the one after it. -/
def splitValue : List Char → List Char × Option (List Char)
  | [] => ([], none)
  | c :: rest =>
    if c = '=' then ([], some rest)
    else
      let (name, value) := splitValue rest
      (c :: name, value)

def Word.ofText (text : String) : Word :=
  match text.toList with
  | ['-', '-'] => escape
  | '-' :: '-' :: rest =>
    let (name, value) := splitValue rest
    long (String.ofList name) (value.map String.ofList)
  | '-' :: c :: rest => letters (c :: rest)
  | _ => plain

/-- What the arguments so far have given. -/
structure Reading where
  command : Option Name
  /-- The settings that are complete, in the order given. -/
  given : List (Setting × List String)
  /-- The last setting, as long as its values are looked for in the next arguments. -/
  pending : Option (Setting × List String)
  perDocument : Bool
  escaped : Bool

namespace Reading

def empty : Reading := ⟨none, [], none, false, false⟩

/-- Reading goes on, or the answer is known before its end. -/
abbrev Step := Except Request Reading

def wrong (error : UsageError) : Step := .error (.unusable error)

/-- Takes a setting with its values. -/
def record (r : Reading) (setting : Setting) (values : List String) : Step :=
  if values.isEmpty then wrong (.noValue setting)
  else if setting ≠ .input && r.given.any (·.1 = setting) then wrong (.repeated (.setting setting))
  else if setting = .out && values.contains "" then wrong .emptyPath
  else .ok { r with given := r.given ++ [(setting, values)] }

/-- Ends the search for values. -/
def close (r : Reading) : Step :=
  match r.pending with
  | none => .ok r
  | some (setting, values) => { r with pending := none }.record setting values

def switch (r : Reading) (s : Switch) : Step := do
  let r ← r.close
  match s with
  | .verbose => return r
  | .help => .error .help
  | .version => .error .version
  | .perDocument =>
    if r.perDocument then wrong (.repeated (.switch .perDocument))
    else return { r with perDocument := true }

/-- A setting, with the value that its own argument has for it. -/
def setting (r : Reading) (s : Setting) (value : Option String) : Step := do
  let r ← r.close
  match value with
  | some value => r.record s [value]
  | none => return { r with pending := some (s, []) }

/-- Letters after one hyphen: switches, and at their end perhaps a setting, whose value is the rest
of the argument if there is a rest. -/
def letters (r : Reading) : List Char → Step
  | [] => .ok r
  | c :: rest =>
    match (flags r.command).find? (·.letter? = some c) with
    | none => wrong (.unexpectedArgument (String.ofList ['-', c]))
    | some (.switch s) =>
      match r.switch s with
      | .ok r => r.letters rest
      | .error answer => .error answer
    | some (.setting s) =>
      match rest with
      | [] => r.setting s none
      | '=' :: value => r.setting s (some (String.ofList value))
      | value => r.setting s (some (String.ofList value))

/-- An option by its name, with the value that its own argument has for it. -/
def long (r : Reading) (name : String) (value : Option String) : Step :=
  match (flags r.command).find? (·.spelling = name) with
  | none => wrong (.unexpectedArgument ("--" ++ name))
  | some (.setting s) => r.setting s value
  | some (.switch s) => if value.isSome then wrong (.unexpectedValue s) else r.switch s

/-- An argument that is no option: a value that is looked for. -/
def plain (r : Reading) (text : String) : Step :=
  match r.pending with
  | some (s, values) =>
    if s.takesMore values then .ok { r with pending := some (s, values ++ [text]) }
    else wrong (.unexpectedArgument text)
  | none =>
    if r.command = none then wrong (.unknownCommand text) else wrong (.unexpectedArgument text)

/-- One argument further. -/
def step (r : Reading) (text : String) : Step :=
  if r.escaped then wrong (.unexpectedArgument text)
  else
    match Name.ofText? text, r.command with
    | some name, none => .ok { r with command := some name }
    | _, _ =>
      match Word.ofText text with
      | .escape => .ok { r with escaped := true }
      | .long name value => r.long name value
      | .letters letters => r.letters letters
      | .plain => r.plain text

/-- All values of a setting. -/
def values (r : Reading) (setting : Setting) : List String :=
  (r.given.filter (·.1 = setting)).flatMap Prod.snd

/-- The class of the documents where no other is asked for. -/
def defaultRootType : String := "RootClass"

/-- The job of a command that the settings describe. -/
def job (r : Reading) (name : Name) : Job where
  inputs := r.values .input
  pointer := (r.values .pointer).head?
  filter := (r.values .filter).head?
  rootType := (r.values .rootType).head?.getD defaultRootType
  out := (r.values .out).head?
  product :=
    match name with
    | .rust => .declarations .rust
    | .csharp => .declarations (.csharp (r.values .space).head?)
    | .model => .model r.perDocument

/-- What is asked for when there are no more arguments. -/
def finish (r : Reading) : Request :=
  match r.close with
  | .error answer => answer
  | .ok r =>
    match r.command with
    | none => .unusable .noCommand
    | some name =>
      if (r.values .input).isEmpty then .unusable .noInput else .run (r.job name)

/-- Help may be asked for by a word of its own, about a command or about itself. -/
def helpOn : List String → Request
  | [] => .help
  | topic :: rest =>
    if topic ≠ "help" && (Name.ofText? topic).isNone then .unusable (.unknownCommand topic)
    else
      match rest with
      | [] => .help
      | extra :: _ => .unusable (.unexpectedArgument extra)

/-- What the arguments ask for, given what those before them have given. -/
def request (r : Reading) : List String → Request
  | [] => r.finish
  | text :: rest =>
    if text = "help" && r.command.isNone && !r.escaped then helpOn rest
    else
      match r.step text with
      | .error answer => answer
      | .ok r => r.request rest

end Reading

def Request.ofArguments (arguments : List String) : Request :=
  Reading.empty.request arguments

end Exemplar.Command

import Exemplar.Files.Tree
import Exemplar.Glob.Pattern

/-! The paths in a tree of files that a pattern stands for.

The components of the pattern are followed from a folder downwards. What a folder holds is visited
in the order of the names, and a folder before what it holds. -/
namespace Exemplar.Glob

/-- A path and what it leads to. -/
abbrev Found := String × Node

/-- Joins what was found under each name, in the order of the names. -/
def inOrder (byName : List (String × List Found)) : List Found :=
  (byName.mergeSort fun a b => a.1 ≤ b.1).flatMap Prod.snd

mutual

/-- What `visit` finds at everything below a folder, at any depth. -/
def below (visit : String → String → Node → List Found) (path : String) : Node → List Found
  | .file _ => []
  | .folder entries => inOrder (belowEach visit path entries)

/-- The same for each entry, with its name. -/
def belowEach (visit : String → String → Node → List Found) (path : String) :
    List (String × Node) → List (String × List Found)
  | [] => []
  | (name, node) :: rest =>
    let inside := Path.child path name
    (name, visit inside name node ++ below visit inside node) :: belowEach visit path rest

end

/-- What a path leads to, if anything. -/
def lookUp (files : Files) (path : String) : List Found :=
  match files.node path with
  | .ok node => [(path, node)]
  | .error _ => []

/-- What the components stand for, from a path on. -/
def expandFrom (files : Files) : List Component → String → Node → List Found
  | [], path, node => [(path, node)]
  | [.anyFolders], path, node =>
    below (fun path _ node => if node.isFolder then [(path, node)] else []) path node
  | .anyFolders :: c :: rest, path, node =>
    below (fun path name node => if c.accepts name then expandFrom files rest path node else [])
      path node
  | .literal name :: rest, path, node =>
    if (name = "." || name = "..") && !node.isFolder then []
    else (lookUp files (Path.child path name)).flatMap fun (path, node) =>
      expandFrom files rest path node
  | c :: rest, path, node =>
    let special := c.specialNames.flatMap fun name => lookUp files (Path.join path name)
    let held := node.entries.filter fun (name, _) => c.accepts name
    (if node.isFolder then special else []).flatMap (fun (path, node) => expandFrom files rest path node)
      ++ inOrder (held.map fun (name, node) =>
        (name, expandFrom files rest (Path.child path name) node))

/-- The names before the first component with a wildcard. -/
def literalStart : List Component → List String
  | .literal name :: rest => name :: literalStart rest
  | _ => []

/-- The folder in which all that a pattern stands for is found. -/
def startFolder (pattern : String) : String :=
  let start := if Path.isAbsolute pattern then "/" else "."
  match parse pattern with
  | .ok components => (literalStart components).foldl Path.child start
  | .error _ => start

/-- The paths a pattern stands for. A slash at the end of the pattern asks for folders. -/
def expand (files : Files) (pattern : String) : Except PatternError (List String) := do
  let components ← parse pattern
  let start := if Path.isAbsolute pattern then "/" else "."
  let found := (lookUp files start).flatMap fun (path, node) =>
    expandFrom files components path node
  let found := if Path.endsInSlash pattern then found.filter (·.2.isFolder) else found
  return found.map Prod.fst

end Exemplar.Glob

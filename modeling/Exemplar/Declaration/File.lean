import Exemplar.Declaration.CSharp
import Exemplar.Declaration.Rust

/-! A file of declarations: the heading of its language once, then a block for each class. -/
namespace Exemplar

/-- The language of the declarations. -/
inductive Target where
  | rust
  /-- All classes may stand in a namespace. -/
  | csharp (space : Option String)
  deriving DecidableEq

namespace Target

/-- Lines as text, each with its line break. -/
def unlines (lines : List String) : String :=
  String.join (lines.map (· ++ "\n"))

def heading : Target → String
  | rust => unlines Declaration.Rust.heading
  | csharp space => unlines (Declaration.CSharp.heading space)

/-- The declaration of a class. -/
def block (target : Target) (m : Model) (c : Class) : String :=
  match target with
  | rust => unlines (Declaration.Rust.lines m c)
  | csharp _ => unlines (Declaration.CSharp.lines c)

/-- The declarations of a model by class name, in order of registration. -/
def blocks (target : Target) (m : Model) : List (String × String) :=
  m.classes.values.map fun c => (c.name, target.block m c)

/-- The heading and the declarations of several models; nothing if there are no declarations. -/
def file (target : Target) (models : List Model) : String :=
  let texts := models.flatMap fun m => (target.blocks m).map Prod.snd
  if texts.isEmpty then ""
  else target.heading ++ String.join (texts.map ("\n" ++ ·))

end Target

end Exemplar

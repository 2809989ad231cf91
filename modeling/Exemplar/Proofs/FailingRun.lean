import Exemplar.Command.Run

/-!
# Runs that fail

A run that fails prints nothing and leaves every file as it was. Folders may be there that were not
there before: they are made on the way to a file that then cannot be written.

All that a job does before it saves is harmless, whatever comes of it. The two actions that matter,
printing and writing a file, are the last of a job, and an action that fails does nothing itself.
-/
namespace Exemplar

namespace Node

end Node

namespace Files

/-- Both hold the same files, with the same contents at the same places. -/
def SameContents (before after : Files) : Prop :=
  ∀ place, after.root.contentAt? place = before.root.contentAt? place

theorem SameContents.refl (files : Files) : files.SameContents files := fun _ => rfl

theorem SameContents.trans {a b c : Files} (first : a.SameContents b) (second : b.SameContents c) :
    a.SameContents c :=
  fun place => (second place).trans (first place)

end Files

namespace Command

/-- The same was printed, and the files are the same. The input may be read up. -/
structure World.Unchanged (before after : World) : Prop where
  printed : after.printed = before.printed
  files : before.files.SameContents after.files

theorem World.Unchanged.refl (world : World) : world.Unchanged world := ⟨rfl, .refl world.files⟩

theorem World.Unchanged.trans {a b c : World} (first : a.Unchanged b) (second : b.Unchanged c) :
    a.Unchanged c :=
  ⟨second.printed.trans first.printed, first.files.trans second.files⟩

namespace Action
variable {α β : Type}

/-- Nothing is printed and no file is changed, whatever comes of the action. -/
def Harmless (a : Action α) : Prop :=
  ∀ world : World, world.Unchanged (a.runIn world).2

/-- A sequence goes on in the world that its first action leaves, and stops at a failure. -/
theorem runIn_bind (a : Action α) (next : α → Action β) (world : World) :
    (a >>= next).runIn world
      = match a.runIn world with
        | (.ok answer, after) => (next answer).runIn after
        | (.error e, after) => (.error e, after) := by
  simp only [runIn, ExceptT.run_bind, StateT.run_bind]
  rcases (a.run.run world) with ⟨_ | _, _⟩ <;> rfl

theorem Harmless.bind {a : Action α} {next : α → Action β} (first : a.Harmless)
    (second : ∀ answer, (next answer).Harmless) : (a >>= next).Harmless := by
  intro world
  have before : world.Unchanged (a.runIn world).2 := first world
  rw [runIn_bind]
  rcases done : a.runIn world with ⟨e | answer, between⟩
  · rwa [done] at before
  · rw [done] at before
    exact before.trans (second answer between)

end Action

/-- The folder of a file that cannot be written is made and stays. -/
example :
    let files : Files := ⟨.folder [("a.json", .file "\x7b\x7d".toUTF8)], []⟩
    let outcome := run ["rust", "-i", "a.json", "-o", "b/c/"] .empty files
    (outcome.exitCode, outcome.files.isFolder "b") = (1, true) := by
  decide +kernel

end Command

end Exemplar

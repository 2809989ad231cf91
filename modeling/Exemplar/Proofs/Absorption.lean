import Exemplar.Proofs.Coverage
import Exemplar.Proofs.History
import Exemplar.Proofs.Warnings

/-!
# Repeated documents

A document that was observed before has nothing to add, however much was learnt in between: the walk
over it is the one guided by the last model, both times, so it meets the same events, which the model
covers since the first time. Warnings are no part of the model, and the same ones are given again.
-/
namespace Exemplar
open Json (Value)

namespace Session
variable (singular : String → String)

/-- Observing a document is replaying the walk that any later model guides. -/
theorem observe_eq_replay (s : Session) (d : Document) {m : Model}
    (later : (s.observe singular d.root d.value).model.Grows m) :
    s.observe singular d.root d.value = s.replay (visitDocument singular m d) := by
  rw [← traceDocument_eq_visitDocument singular s d later, replay_traceDocument]

theorem grows_observe (s : Session) (root : String) (value : Value) :
    s.Grows (s.observe singular root value) :=
  grows_observeAll singular s [⟨root, value⟩]

/-- A document is absorbed when it is observed. If it is observed again, after any steps but resets,
the model stays as it is, and the warnings that are added are those that were added the first time. -/
theorem observe_again (s : Session) (root : String) (value : Value) (steps : List Step)
    (noReset : ∀ step ∈ steps, step ≠ .reset) :
    let first := s.observe singular root value
    let between := first.run singular steps
    let second := between.observe singular root value
    second.model = between.model ∧
    ∃ added, first.warnings = s.warnings ++ added ∧ second.warnings = between.warnings ++ added := by
  intro first between second
  have grown : first.model.Grows between.model := (grows_run singular first noReset).model
  have grows : between.model.Grows second.model := (grows_observe singular between root value).model
  let events := visitDocument singular second.model ⟨root, value⟩
  have firstReplay : first = s.replay events :=
    observe_eq_replay singular s ⟨root, value⟩ (grown.trans grows)
  have secondReplay : second = between.replay events :=
    observe_eq_replay singular between ⟨root, value⟩ (.refl _)
  constructor
  · have covered : ∀ e ∈ events, between.model.Covers e :=
      s.covers_replay (firstReplay ▸ grown)
    rw [secondReplay]
    exact between.model_replay covered
  · refine ⟨events.flatMap (·.warnings second.model), ?_, ?_⟩
    · rw [firstReplay]
      exact s.warnings_replay events (firstReplay ▸ grown.trans grows)
    · rw [secondReplay]
      exact between.warnings_replay events (secondReplay ▸ .refl _)

/-- A document that disagrees with itself, and whose null is a class by the time it comes again. -/
theorem observe_again_items :
    let value := Value.object
      [("items", .array [.object [("v", .number (.integer 1))], .object [("v", .bool true)]]),
        ("next", .null)]
    let steps := [.observe "root" (.object [("next", .object [("items", .null)])]), .parse "root" " "]
    let first := observe id ∅ "root" value
    let between := first.run id steps
    let second := between.observe id "root" value
    (∀ step ∈ steps, step ≠ .reset) ∧ first.model ≠ between.model ∧
    second.model = between.model ∧
    second.warnings = between.warnings ++ [.conflictingSample "Items" "v" "int" "bool"] := by
  intro value steps first between second
  have noReset : ∀ step ∈ steps, step ≠ .reset := by simp [steps]
  obtain ⟨same, added, once, twice⟩ := observe_again id ∅ "root" value steps noReset
  have warned : first.warnings = [.conflictingSample "Items" "v" "int" "bool"] := by decide +kernel
  have only : added = [.conflictingSample "Items" "v" "int" "bool"] := by
    rw [← warned, once]
    rfl
  exact ⟨noReset, by decide +kernel, same, only ▸ twice⟩

end Session

end Exemplar

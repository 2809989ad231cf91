import Exemplar.Proofs.Trace
import Mathlib.Data.List.Induction

/-!
# Histories of a session

A session is used step by step: a text is parsed, a document is observed, or everything is forgotten.
A history is a list of such steps, and what it leaves is what the documents since the last reset
leave. Every other step only adds to what is known.
-/
namespace Exemplar
open Json (Value)

inductive Step where
  | parse (root text : String)
  | observe (root : String) (value : Value)
  | reset

namespace Session
variable (singular : String → String)

/-- The session after a step. A text that is no document changes nothing. -/
def after (s : Session) : Step → Session
  | .parse root text =>
    match s.parse singular root text with
    | .ok t => t
    | .error _ => s
  | .observe root value => s.observe singular root value
  | .reset => ∅

def run (s : Session) (steps : List Step) : Session :=
  steps.foldl (after singular) s

end Session

/-- The documents that a step adds: none for a blank text or a text that is no document. -/
def Step.documents : Step → List Document
  | .parse root text =>
    if text.toList.all Unicode.isBlank then []
    else
      match Value.read text with
      | .ok value => [⟨root, value⟩]
      | .error _ => []
  | .observe root value => [⟨root, value⟩]
  | .reset => []

/-- The documents that count after one more step. -/
def Step.collect (documents : List Document) : Step → List Document
  | .reset => []
  | step => documents ++ step.documents

/-- The documents since the last reset. -/
def documentsOf (steps : List Step) : List Document :=
  steps.foldl Step.collect []

namespace Session
variable (singular : String → String)

theorem after_eq_observeAll (s : Session) {step : Step} (h : step ≠ .reset) :
    s.after singular step = s.observeAll singular step.documents := by
  cases step with
  | parse root text =>
    by_cases blank : text.toList.all Unicode.isBlank
    · simp [after, parse, Step.documents, blank]
    · cases read : Value.read text with
      | ok value => simp [after, parse, Step.documents, blank, read, Except.map]
      | error e => simp [after, parse, Step.documents, blank, read, Except.map]
  | observe root value => rfl
  | reset => exact absurd rfl h

/-- What a history leaves depends on its documents since the last reset only. -/
theorem run_eq_observeAll (steps : List Step) :
    run singular ∅ steps = observeAll singular ∅ (documentsOf steps) := by
  induction steps using List.reverseRecOn with
  | nil => rfl
  | append_singleton steps step ih =>
    have last : run singular ∅ (steps ++ [step])
        = (observeAll singular ∅ (documentsOf steps)).after singular step := by
      rw [← ih, run, run, List.foldl_append, List.foldl_cons, List.foldl_nil]
    have documents : documentsOf (steps ++ [step]) = step.collect (documentsOf steps) := by
      rw [documentsOf, documentsOf, List.foldl_append, List.foldl_cons, List.foldl_nil]
    rw [last, documents]
    cases step with
    | reset => rfl
    | _ =>
      rw [after_eq_observeAll singular _ (by simp)]
      exact (observeAll_append ..).symm

theorem grows_after (s : Session) {step : Step} (h : step ≠ .reset) :
    s.Grows (s.after singular step) := by
  rw [after_eq_observeAll singular s h]
  exact grows_observeAll singular s _

theorem grows_run (s : Session) {steps : List Step} (h : ∀ step ∈ steps, step ≠ .reset) :
    s.Grows (s.run singular steps) := by
  induction steps generalizing s with
  | nil => exact .refl s
  | cons step rest ih =>
    have first := grows_after singular s (h step List.mem_cons_self)
    exact first.trans (ih _ fun later hl => h later (List.mem_cons_of_mem _ hl))

/-- Sessions only grow. A step other than a reset keeps the classes, their properties and the
warnings in place and adds to them at the end; a property keeps its key and its name, and its type
once it has one. A text that is no document changes nothing. -/
theorem append_only (s : Session) (step : Step) (h : step ≠ .reset) :
    s.model.names <+: (s.after singular step).model.names ∧
    (∀ name, (s.model.classOf name).properties.keys <+:
      ((s.after singular step).model.classOf name).properties.keys) ∧
    (∀ name key p, s.model.property? name key = some p →
      ∃ q, (s.after singular step).model.property? name key = some q ∧
        q.key = p.key ∧ q.name = p.name ∧
        (p.dataType ≠ .unknown → q = p) ∧
        (q.dataType = p.dataType ∧ q.isArray = p.isArray ∨
          p.dataType = .unknown ∧ q.dataType ≠ .unknown)) ∧
    s.warnings <+: (s.after singular step).warnings ∧
    ∀ root text e, step = .parse root text → s.parse singular root text = .error e →
      s.after singular step = s := by
  have grows := grows_after singular s h
  refine ⟨grows.model.names, fun name => (grows.model.classes name).keys, ?_, grows.warnings, ?_⟩
  · intro name key p hp
    obtain ⟨q, hq, settles⟩ := grows.model.property? hp
    refine ⟨q, hq, settles.1, settles.2.1, settles.eq_of_known, ?_⟩
    rcases settles.2.2 with same | changed
    · exact .inl ⟨congrArg Sample.dataType same, congrArg Sample.isArray same⟩
    · exact .inr changed
  · intro root text e hs failed
    subst hs
    rw [after, failed]

/-- A type that stays against another, and a placeholder that is filled. -/
theorem append_only_conflict :
    let s := observe id ∅ "root" (.object [("a", .null), ("b", .bool true)])
    let step := Step.observe "root" (.object [("b", .string "x"), ("c", .null), ("a", .bool true)])
    let t := s.after id step
    step ≠ .reset ∧
    (s.model.classOf "Root").properties.keys <+: (t.model.classOf "Root").properties.keys ∧
    t.model.property? "Root" "b" = some ⟨"b", "B", .bool, false⟩ ∧
    t.model.property? "Root" "a" = some ⟨"a", "A", .bool, false⟩ ∧
    s.warnings <+: t.warnings ∧ t.warnings ≠ [] := by
  intro s step t
  have h : step ≠ .reset := nofun
  obtain ⟨_, keys, properties, warnings, _⟩ := append_only id s step h
  obtain ⟨b, hb, _, _, kept, _⟩ :=
    properties "Root" "b" ⟨"b", "B", .bool, false⟩ (by decide +kernel)
  exact ⟨h, keys "Root", kept nofun ▸ hb, by decide +kernel, warnings, by decide +kernel⟩

end Session

end Exemplar

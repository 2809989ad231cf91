import Exemplar.Proofs.FirstSample
import Exemplar.Proofs.History
import Exemplar.Proofs.Warnings

/-!
# Warnings stay true

A warning is given once, while an object is being walked, and the model goes on changing. It is true of
the model of the end all the same: the class that it names has been entered, and the type that it says
was kept is never given up. The walk guided by the model of the end shows both, for the conflicts of
this walk are judged by that very model, and its reports stand under classes that it has entered.
-/
namespace Exemplar

/-- What a warning says of a model: its class is there, and so is the property of a conflict, with the
type that was kept. -/
def Warning.HoldsIn (m : Model) : Warning → Prop
  | mixedArray className _ => className ∈ m.names
  | nestedArray className _ => className ∈ m.names
  | conflictingSample className key kept _ =>
    className ∈ m.names ∧ ∃ p, m.property? className key = some p ∧
      kept = if p.isArray then p.dataType.text ++ "[]" else p.dataType.text

theorem Warning.Reports.holdsIn {m : Model} {className : String} {w : Warning}
    (report : w.Reports className) (registered : className ∈ m.names) : w.HoldsIn m := by
  obtain ⟨key, rfl | rfl⟩ := report
  · exact registered
  · exact registered

namespace Model
variable (m : Model) {className key : String} {offered : Sample}

theorem mem_names_of_property? {p : Property} (hp : m.property? className key = some p) :
    className ∈ m.names := by
  rw [mem_names_iff]
  intro absent
  rw [property?, absent] at hp
  cases hp

/-- A sample with a type is objected to exactly if the property has another type. -/
theorem mem_objections_iff {w : Warning} :
    w ∈ m.objections className key offered ↔
      ∃ p, m.property? className key = some p ∧ p.sample ≠ offered ∧ p.dataType ≠ .unknown ∧
        offered.dataType ≠ .unknown ∧
        w = .conflictingSample className key p.sample.text offered.text := by
  rw [objections, sample?]
  cases m.property? className key with
  | none => simp
  | some p =>
    dsimp only [Option.map_some]
    split
    · rename_i quiet
      constructor
      · intro h
        cases h
      · rintro ⟨q, same, differs, typed, known, _⟩
        cases same
        rcases quiet with equal | unknown | unknown
        · exact absurd equal differs
        · exact absurd unknown known
        · exact absurd unknown typed
    · rename_i loud
      have differs : p.sample ≠ offered := fun equal => loud (.inl equal)
      have known : offered.dataType ≠ .unknown := fun unknown => loud (.inr (.inl unknown))
      have typed : p.dataType ≠ .unknown := fun unknown => loud (.inr (.inr unknown))
      constructor
      · intro h
        exact ⟨p, rfl, differs, typed, known, List.mem_singleton.mp h⟩
      · rintro ⟨q, same, _, _, _, rfl⟩
        cases same
        exact List.mem_singleton.mpr rfl

theorem holdsIn_of_mem_objections {w : Warning} (h : w ∈ m.objections className key offered) :
    w.HoldsIn m := by
  obtain ⟨p, hp, _, _, _, rfl⟩ := m.mem_objections_iff.mp h
  exact ⟨m.mem_names_of_property? hp, p, hp, rfl⟩

end Model

section Walk
variable {m : Model}

/-- Whatever is reported in a walk stands under its class or one that it has entered. -/
theorem exists_entered_of_report {className : String} {events : List Event}
    (walk : Walk m className events) {w : Warning} (h : .report w ∈ events) :
    ∃ owner ∈ className :: entered events, w.Reports owner := by
  induction walk with
  | nil => cases h
  | @append className a b _ _ iha ihb =>
    rw [entered_append]
    rcases List.mem_append.mp h with first | later
    · obtain ⟨owner, inside, report⟩ := iha first
      exact ⟨owner, List.mem_append_left (entered b) inside, report⟩
    · obtain ⟨owner, inside, report⟩ := ihb later
      refine ⟨owner, ?_, report⟩
      rcases List.mem_cons.mp inside with rfl | inside
      · exact List.mem_cons_self
      · exact List.mem_cons_of_mem _ (List.mem_append_right (entered a) inside)
  | @report className _ own =>
    cases List.mem_singleton.mp h
    exact ⟨className, List.mem_cons_self, own⟩
  | accepted _ _ ih =>
    -- the other class is entered before anything is reported in it
    have inside := (List.mem_cons.mp h).resolve_left nofun
    have later := (List.mem_cons.mp inside).resolve_left nofun
    obtain ⟨owner, known, report⟩ := ih later
    exact ⟨owner, List.mem_cons_of_mem _ known, report⟩
  | _ => cases List.mem_singleton.mp h

theorem exists_entered_of_report_visitDocument (singular : String → String) (d : Document)
    {w : Warning} (h : .report w ∈ visitDocument singular m d) :
    ∃ owner ∈ entered (visitDocument singular m d), w.Reports owner := by
  rcases walkObjects_visitDocument singular m d with none | ⟨rest, events, walk⟩
  · rw [none] at h
    cases h
  · rw [events] at h ⊢
    exact exists_entered_of_report walk ((List.mem_cons.mp h).resolve_left nofun)

end Walk

section Session
variable (singular : String → String) (documents : List Document)

/-- The warnings of a session are those of its log, judged by its own model. -/
theorem warnings_eq_flatMap_sessionLog :
    (Session.observeAll singular ∅ documents).warnings
      = (sessionLog singular documents).flatMap
          (·.warnings (Session.observeAll singular ∅ documents).model) := by
  rw [sessionLog_eq_visitAll]
  exact Session.warnings_observeAll singular ∅ documents (.refl _)

theorem covers_sessionLog :
    ∀ e ∈ sessionLog singular documents,
      (Session.observeAll singular ∅ documents).model.Covers e := by
  have replayed := replay_sessionLog singular documents
  exact Session.covers_replay ∅ (replayed ▸ .refl _)

/-- Every report stands under a class of the model. -/
theorem exists_name_of_report {w : Warning} (h : .report w ∈ sessionLog singular documents) :
    ∃ owner ∈ (Session.observeAll singular ∅ documents).model.names, w.Reports owner := by
  rw [sessionLog_eq_visitAll] at h
  obtain ⟨d, hd, h⟩ := List.mem_flatMap.mp h
  obtain ⟨owner, entry, report⟩ := exists_entered_of_report_visitDocument singular d h
  refine ⟨owner, ?_, report⟩
  rw [names_observeAll, List.mem_eraseDups, sessionLog_eq_visitAll, entered, visitAll,
    List.filterMap_flatMap]
  exact List.mem_flatMap.mpr ⟨d, hd, entry⟩

theorem holdsIn_of_mem_warnings {w : Warning}
    (h : w ∈ (Session.observeAll singular ∅ documents).warnings) :
    w.HoldsIn (Session.observeAll singular ∅ documents).model := by
  rw [warnings_eq_flatMap_sessionLog] at h
  obtain ⟨e, he, hw⟩ := List.mem_flatMap.mp h
  cases e with
  | enter className => cases hw
  | sample className key offered => exact Model.holdsIn_of_mem_objections _ hw
  | report reported =>
    cases List.mem_singleton.mp hw
    obtain ⟨owner, registered, report⟩ := exists_name_of_report singular documents he
    exact report.holdsIn registered

/-- A conflict is warned of exactly if a sample with a type was offered that is not the type of its
property in the end. -/
theorem conflictingSample_mem_warnings_iff {className key kept observed : String} :
    .conflictingSample className key kept observed
        ∈ (Session.observeAll singular ∅ documents).warnings ↔
      ∃ p, (Session.observeAll singular ∅ documents).model.property? className key = some p ∧
        kept = p.sample.text ∧
        ∃ offered ∈ samplesAt className key (sessionLog singular documents),
          offered.dataType ≠ .unknown ∧ offered ≠ p.sample ∧ observed = offered.text := by
  rw [warnings_eq_flatMap_sessionLog, List.mem_flatMap]
  constructor
  · rintro ⟨e, he, hw⟩
    cases e with
    | enter className => cases hw
    | report reported =>
      obtain ⟨owner, _, other, report⟩ := exists_name_of_report singular documents he
      rcases report with rfl | rfl
      · cases List.mem_singleton.mp hw
      · cases List.mem_singleton.mp hw
    | sample owner other offered =>
      obtain ⟨p, hp, differs, _, known, same⟩ := (Model.mem_objections_iff _).mp hw
      cases same
      exact ⟨p, hp, rfl, offered, mem_samplesAt.mpr he, known, differs.symm, rfl⟩
  · rintro ⟨p, hp, rfl, offered, member, known, differs, rfl⟩
    have he := mem_samplesAt.mp member
    obtain ⟨_, q, hq, typed⟩ := covers_sessionLog singular documents _ he
    cases hp.symm.trans hq
    exact ⟨_, he, (Model.mem_objections_iff _).mpr ⟨p, hp, differs.symm, typed known, known, rfl⟩⟩

end Session

/-- After any steps every warning is true of the model as it is then: the class that it names is
registered, and a conflict names a property of the class whose type is still the one that was kept. Nor
is any conflict withheld: there is a warning for every sample with a type that is not the type of its
property. -/
theorem warnings_hold (singular : String → String) (steps : List Step) :
    let s := Session.run singular ∅ steps
    let log := sessionLog singular (documentsOf steps)
    (∀ w ∈ s.warnings, w.HoldsIn s.model) ∧
    ∀ className key kept observed,
      .conflictingSample className key kept observed ∈ s.warnings ↔
        ∃ p, s.model.property? className key = some p ∧ kept = p.sample.text ∧
          ∃ offered ∈ samplesAt className key log,
            offered.dataType ≠ .unknown ∧ offered ≠ p.sample ∧ observed = offered.text := by
  intro s log
  have observed : s = Session.observeAll singular ∅ (documentsOf steps) :=
    Session.run_eq_observeAll singular steps
  rw [observed]
  constructor
  · intro w hw
    exact holdsIn_of_mem_warnings singular (documentsOf steps) hw
  · intro className key kept other
    exact conflictingSample_mem_warnings_iff singular (documentsOf steps)

/-- Conflicts with an array and with a type that filled a placeholder, and reports under a class that
was entered below a null, after warnings that were forgotten. -/
theorem warnings_hold_rows :
    let first : Json.Value := .object
      [("rows", .array [.object [("v", .null)], .bool true]), ("next", .null)]
    let second : Json.Value := .object
      [("rows", .object []), ("next", .object [("grid", .array [.array []])])]
    let third : Json.Value := .object
      [("rows", .array [.object [("v", .bool true)], .object [("v", .string "x")]])]
    let steps : List Step :=
      [.parse "old" "\x7b\"a\": [[]]\x7d", .reset, .observe "doc" first, .observe "doc" second,
        .observe "doc" third]
    let s := Session.run Naming.singular ∅ steps
    s.warnings =
      [.mixedArray "Doc" "rows", .conflictingSample "Doc" "rows" "Row[]" "Rows",
        .nestedArray "Next" "grid", .conflictingSample "Row" "v" "bool" "string"] ∧
    (∀ w ∈ s.warnings, w.HoldsIn s.model) ∧
    ∃ p, s.model.property? "Row" "v" = some p ∧ p.sample.text = "bool" := by
  intro first second third steps s
  have warned : s.warnings =
      [.mixedArray "Doc" "rows", .conflictingSample "Doc" "rows" "Row[]" "Rows",
        .nestedArray "Next" "grid", .conflictingSample "Row" "v" "bool" "string"] := by
    decide +kernel
  obtain ⟨true, conflict⟩ := warnings_hold Naming.singular steps
  have last : .conflictingSample "Row" "v" "bool" "string" ∈ s.warnings := by simp [warned]
  obtain ⟨p, hp, kept, _⟩ := (conflict "Row" "v" "bool" "string").mp last
  exact ⟨warned, true, p, hp, kept.symm⟩

end Exemplar

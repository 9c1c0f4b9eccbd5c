import Rehearsal.Document.Validation

/-!
What the diagnostics of a document are about.

Each of them is told of the document as a whole, of one scenario or of one step, and they come in
that order: what is told of a scenario stands before what is told of its steps.
-/

namespace Rehearsal

/-- Whatever something can be told of; scenarios and steps are told apart by their places. -/
inductive Subject where
  | document
  | scenario (i : Nat)
  | step (i j : Nat)
  deriving DecidableEq, Repr

/-- The names under which steps note something down, from the last to the first. -/
def notedIn (steps : List StepSpec) : List String :=
  (steps.filterMap fun step => step.action.note?).reverse

/-- What is told of the step in place `j`, where `notes` are noted down before the scenario. -/
def ScenarioSpec.toldOfStep (scenario : ScenarioSpec) (notes : List String) (j : Nat) :
    List Diagnostic :=
  match scenario.steps[j]? with
  | some step =>
      (step.action.findings (notedIn (scenario.steps.take j) ++ notes)).map
        (Finding.at (some (step.location scenario (j + 1))))
  | none => []

namespace Document

/-- What is told of a subject. -/
def told (document : Document) : Subject → List Diagnostic
  | .document => (foundIf (Text.isBlank document.entryUrl) .entryUrlBlank).map (Finding.at none)
  | .scenario i =>
      match document.scenarios[i]? with
      | some scenario =>
          (scenario.findings (document.scenarios.map ScenarioSpec.name)
            ((document.scenarios.take i).map ScenarioSpec.name).reverse).map
              (Finding.at (some scenario.location))
      | none => []
  | .step i j =>
      match document.scenarios[i]? with
      | some scenario =>
          scenario.toldOfStep
            (notedIn ((document.scenarios.take i).flatMap ScenarioSpec.steps)) j
      | none => []

/-- The scenario in place `i` and its steps. -/
def subjectsOf (i : Nat) (scenario : ScenarioSpec) : List Subject :=
  .scenario i :: (List.range scenario.steps.length).map (.step i)

/-- Everything that something can be told of, in order. -/
def subjects (document : Document) : List Subject :=
  .document :: (document.scenarios.mapIdx subjectsOf).flatten

end Document

theorem notedIn_append (front back : List StepSpec) :
    notedIn (front ++ back) = notedIn back ++ notedIn front := by
  simp [notedIn]

/-- Steps behind others are looked through with what these have noted down. -/
theorem stepDiagnostics_eq (scenario : ScenarioSpec) (notes : List String)
    {earlier later : List StepSpec} (split : scenario.steps = earlier ++ later) :
    stepDiagnostics scenario (earlier.length + 1) (notedIn earlier ++ notes) later =
      ((List.range' earlier.length later.length).flatMap (scenario.toldOfStep notes),
        notedIn scenario.steps ++ notes) := by
  induction later generalizing earlier with
  | nil =>
      rw [List.append_nil] at split
      rw [split]
      rfl
  | cons step rest inductionHypothesis =>
      have further : scenario.steps = (earlier ++ [step]) ++ rest := by simp [split]
      have others := inductionHypothesis further
      have noted : notedIn [step] = step.action.note?.toList := by
        cases held : step.action.note? <;> simp [notedIn, held]
      have here : scenario.toldOfStep notes earlier.length =
          (step.action.findings (notedIn earlier ++ notes)).map
            (Finding.at (some (step.location scenario (earlier.length + 1)))) := by
        simp [ScenarioSpec.toldOfStep, split]
      rw [List.length_append, List.length_singleton, notedIn_append, noted,
        List.append_assoc] at others
      rw [stepDiagnostics, others, List.length_cons, List.range'_succ, List.flatMap_cons, here]

theorem stepDiagnostics_first (scenario : ScenarioSpec) (notes : List String) :
    stepDiagnostics scenario 1 notes scenario.steps =
      ((List.range scenario.steps.length).flatMap (scenario.toldOfStep notes),
        notedIn scenario.steps ++ notes) := by
  have whole := stepDiagnostics_eq scenario notes (List.nil_append scenario.steps).symm
  rwa [List.length_nil, ← List.range_eq_range'] at whole

namespace Document

/-- Scenarios behind others are looked through with what these have defined and noted down. -/
theorem scenarioDiagnostics_eq (document : Document) {before behind : List ScenarioSpec}
    (split : document.scenarios = before ++ behind) :
    scenarioDiagnostics (document.scenarios.map ScenarioSpec.name)
        (before.map ScenarioSpec.name).reverse (notedIn (before.flatMap ScenarioSpec.steps))
        behind =
      (behind.mapIdx fun k => subjectsOf (before.length + k)).flatten.flatMap document.told := by
  induction behind generalizing before with
  | nil => rfl
  | cons scenario rest inductionHypothesis =>
      have further : document.scenarios = (before ++ [scenario]) ++ rest := by simp [split]
      have others := inductionHypothesis further
      rw [List.map_append, List.reverse_append, List.flatMap_append, notedIn_append] at others
      have own : document.told (.scenario before.length) =
          (scenario.findings (document.scenarios.map ScenarioSpec.name)
            (before.map ScenarioSpec.name).reverse).map (Finding.at (some scenario.location)) := by
        simp [told, split]
      have steps : (fun j => document.told (.step before.length j)) =
          scenario.toldOfStep (notedIn (before.flatMap ScenarioSpec.steps)) := by
        funext j
        simp [told, split]
      rw [scenarioDiagnostics, stepDiagnostics_first, List.mapIdx_cons, List.flatten_cons,
        List.flatMap_append, Nat.add_zero, subjectsOf, List.flatMap_cons, List.flatMap_map, own,
        steps]
      simpa [Nat.add_assoc, Nat.add_comm, Nat.add_left_comm] using others

/-- The diagnostics of a document are what is told of one subject after the other. -/
theorem diagnostics_eq (document : Document) :
    document.diagnostics = document.subjects.flatMap document.told := by
  have scenarios := document.scenarioDiagnostics_eq (List.nil_append document.scenarios).symm
  simp only [List.length_nil, Nat.zero_add] at scenarios
  rw [subjects, List.flatMap_cons, ← scenarios]
  rfl

theorem told_step (document : Document) {i j : Nat} {scenario : ScenarioSpec} {step : StepSpec}
    (there : document.scenarios[i]? = some scenario) (here : scenario.steps[j]? = some step) :
    ∃ notes, document.told (.step i j) =
      (step.action.findings notes).map (Finding.at (some (step.location scenario (j + 1)))) := by
  refine ⟨notedIn (scenario.steps.take j) ++
    notedIn ((document.scenarios.take i).flatMap ScenarioSpec.steps), ?_⟩
  simp only [told, there, ScenarioSpec.toldOfStep, here]

end Document

end Rehearsal

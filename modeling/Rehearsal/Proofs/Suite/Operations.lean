import Rehearsal.Proofs.Document.Obstacle
import Rehearsal.Proofs.Suite.Chronicle

/-!
Rows of operations on a suite.

What replays do can be told at once: they leave the registry as it is and put one block for each
name behind the pipeline.
-/

namespace Rehearsal

namespace Suite

/-- A suite behind operations, each of which is performed on what the one before has left. -/
def performAll (operations : List Operation) (suite : Suite) : Suite :=
  operations.foldl (fun suite operation => (operation.perform suite).2) suite

/-- The steps that depending on a scenario schedules: those of the definition in force. -/
def inForce (suite : Suite) (name : String) : List Scheduled :=
  ((suite.registry.get? name).map Scenario.scheduled).getD []

@[simp]
theorem performAll_nil (suite : Suite) : suite.performAll [] = suite := rfl

@[simp]
theorem performAll_cons (operation : Operation) (operations : List Operation) (suite : Suite) :
    suite.performAll (operation :: operations) =
      (operation.perform suite).2.performAll operations := rfl

@[simp]
theorem performAll_append (front back : List Operation) (suite : Suite) :
    suite.performAll (front ++ back) = (suite.performAll front).performAll back :=
  List.foldl_append

theorem perform_scenario (name : String) (steps : List Step) (suite : Suite) :
    (Operation.scenario name steps).perform suite = (.ok (), suite.scenario name steps) := by
  have performs := (Operation.scenario name steps).perform_performs suite
  generalize (Operation.scenario name steps).perform suite = outcome at performs ⊢
  cases performs with
  | defined => rfl

variable {suite : Suite}

theorem perform_dependsOn (name : String) (suite : Suite) :
    ((Operation.dependsOn name).perform suite).2.registry = suite.registry ∧
      ((Operation.dependsOn name).perform suite).2.pipeline =
        suite.pipeline ++ suite.inForce name := by
  have performs := (Operation.dependsOn name).perform_performs suite
  unfold inForce
  generalize (Operation.dependsOn name).perform suite = outcome at performs ⊢
  cases performs with
  | replayed found =>
      rw [found]
      exact ⟨rfl, rfl⟩
  | refused missing =>
      rw [missing]
      exact ⟨rfl, (List.append_nil _).symm⟩

theorem registry_performAll_dependsOn (names : List String) (suite : Suite) :
    (suite.performAll (names.map .dependsOn)).registry = suite.registry := by
  induction names generalizing suite with
  | nil => rfl
  | cons name rest inductionHypothesis =>
      rw [List.map_cons, performAll_cons, inductionHypothesis, (perform_dependsOn name suite).1]

theorem pipeline_performAll_dependsOn (names : List String) (suite : Suite) :
    (suite.performAll (names.map .dependsOn)).pipeline =
      suite.pipeline ++ names.flatMap suite.inForce := by
  induction names generalizing suite with
  | nil => simp
  | cons name rest inductionHypothesis =>
      obtain ⟨kept, grown⟩ := perform_dependsOn name suite
      have still : ((Operation.dependsOn name).perform suite).2.inForce = suite.inForce := by
        funext other
        rw [inForce, kept, inForce]
      rw [List.map_cons, performAll_cons, inductionHypothesis, grown, still, List.flatMap_cons,
        List.append_assoc]

/-- Known scenarios are scheduled again, and it goes on behind them. -/
theorem replay_append {front : List String}
    (known : ∀ name ∈ front, suite.registry.contains name = true) (rest : List String) :
    replay (front ++ rest) suite = replay rest (suite.performAll (front.map .dependsOn)) := by
  induction front generalizing suite with
  | nil => rfl
  | cons name others inductionHypothesis =>
      rw [List.forall_mem_cons] at known
      obtain ⟨after, scheduled, kept⟩ := dependsOn_of_known known.1
      have still : ∀ other ∈ others, after.registry.contains other = true := by
        rw [kept]
        exact known.2
      have performed : (Operation.dependsOn name).perform suite = (.ok (), after) := by
        rw [Operation.perform, replay, scheduled]
        rfl
      rw [List.cons_append, List.map_cons, performAll_cons, performed, replay, scheduled]
      exact inductionHypothesis still

theorem replay_of_known {names : List String}
    (known : ∀ name ∈ names, suite.registry.contains name = true) :
    replay names suite = (.ok (), suite.performAll (names.map .dependsOn)) := by
  have replayed := replay_append known []
  rwa [List.append_nil] at replayed

theorem replay_of_unknown {front : List String} {name : String}
    (known : ∀ held ∈ front, suite.registry.contains held = true)
    (unknown : suite.registry.contains name = false) (rest : List String) :
    replay (front ++ name :: rest) suite =
      (.error (.unknownScenario name), suite.performAll (front.map .dependsOn)) := by
  have still : (suite.performAll (front.map .dependsOn)).registry.contains name = false := by
    rwa [registry_performAll_dependsOn]
  rw [replay_append known, replay, dependsOn_of_unknown still]

end Suite

end Rehearsal

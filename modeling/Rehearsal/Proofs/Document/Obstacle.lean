import Rehearsal.Document.Install
import Rehearsal.Proofs.Suite.Steps

/-!
What keeps a document from being installed.

Of a suite it only matters which scenarios it knows.  The first scenario that is depended on and not
known, or the first address that makes no pattern, is what the installation comes to grief over.
-/

namespace Rehearsal

/-- What comes of an attempt, by what stands in its way. -/
def refusal : Option Error → Except Error Unit
  | none => .ok ()
  | some error => .error error

/-- Why steps cannot be made: the first fault of an action. -/
def stepObstacle : List StepSpec → Option Error
  | [] => none
  | spec :: rest =>
      match spec.action.toAction with
      | .ok _ => stepObstacle rest
      | .error fault => some (.document fault)

/-- Why a scenario cannot be defined next to those that are known. -/
def ScenarioSpec.obstacle (known : String → Bool) (spec : ScenarioSpec) : Option Error :=
  ((spec.dependsOn.find? fun name => !known name).map .unknownScenario).or
    (stepObstacle spec.steps)

/-- Why scenarios cannot be defined one after the other; each is known from its definition on. -/
def obstacle (known : String → Bool) : List ScenarioSpec → Option Error
  | [] => none
  | spec :: rest =>
      (spec.obstacle known).or
        (obstacle (fun name => decide (spec.name = name) || known name) rest)

theorem mapM_toStep (specs : List StepSpec) :
    (∃ steps, specs.mapM StepSpec.toStep = .ok steps ∧ stepObstacle specs = none) ∨
      ∃ fault, specs.mapM StepSpec.toStep = .error fault ∧
        stepObstacle specs = some (.document fault) := by
  induction specs with
  | nil => exact .inl ⟨[], rfl, rfl⟩
  | cons spec rest inductionHypothesis =>
      rw [List.mapM_cons, StepSpec.toStep, stepObstacle]
      cases spec.action.toAction with
      | error fault => exact .inr ⟨fault, rfl, rfl⟩
      | ok action =>
          rcases inductionHypothesis with ⟨steps, made, free⟩ | ⟨fault, made, stopped⟩
          · rw [made]
            exact .inl ⟨action.voiced spec.voice :: steps, rfl, free⟩
          · rw [made]
            exact .inr ⟨fault, rfl, stopped⟩

namespace Suite

variable {suite : Suite}

theorem dependsOn_of_known {name : String} (known : suite.registry.contains name = true) :
    ∃ after, suite.dependsOn name = .ok after ∧ after.registry = suite.registry := by
  obtain ⟨scenario, found⟩ := Registry.contains_iff.mp known
  refine ⟨suite.schedule name scenario, ?_, rfl⟩
  rw [dependsOn, found]

theorem dependsOn_of_unknown {name : String} (unknown : suite.registry.contains name = false) :
    suite.dependsOn name = .error (.unknownScenario name) := by
  unfold dependsOn
  split
  next scenario found =>
    rw [Registry.contains_iff.mpr ⟨scenario, found⟩] at unknown
    cases unknown
  next => rfl

/-- Scenarios are scheduled again up to the first one that is not known, and none is forgotten. -/
theorem replay_refused (names : List String) (suite : Suite) :
    (replay names suite).1 =
        refusal ((names.find? fun name => !suite.registry.contains name).map .unknownScenario) ∧
      (replay names suite).2.registry = suite.registry := by
  induction names generalizing suite with
  | nil => exact ⟨rfl, rfl⟩
  | cons name rest inductionHypothesis =>
      rw [replay]
      cases known : suite.registry.contains name with
      | true =>
          obtain ⟨after, scheduled, kept⟩ := dependsOn_of_known known
          rw [scheduled]
          have rests := inductionHypothesis after
          rw [kept] at rests
          simpa [List.find?_cons, known] using rests
      | false =>
          rw [dependsOn_of_unknown known]
          simp [known, refusal]

end Suite

theorem ScenarioSpec.install_refused (spec : ScenarioSpec) (suite : Suite) :
    (spec.install suite).1 = refusal (spec.obstacle fun name => suite.registry.contains name) ∧
      ((spec.install suite).1 = .ok () → ∀ name,
        (spec.install suite).2.registry.contains name =
          (decide (spec.name = name) || suite.registry.contains name)) := by
  obtain ⟨refused, kept⟩ := Suite.replay_refused spec.dependsOn suite
  unfold install obstacle
  split
  next error after replayed =>
    rw [replayed] at refused
    cases missing : spec.dependsOn.find? fun name => !suite.registry.contains name with
    | none =>
        rw [missing] at refused
        cases refused
    | some name =>
        rw [missing] at refused
        exact ⟨refused, by rintro ⟨⟩⟩
  next after replayed =>
    rw [replayed] at refused kept
    cases missing : spec.dependsOn.find? fun name => !suite.registry.contains name with
    | some name =>
        rw [missing] at refused
        cases refused
    | none =>
        rcases mapM_toStep spec.steps with ⟨steps, made, free⟩ | ⟨fault, made, stopped⟩
        · rw [made, free]
          refine ⟨rfl, ?_⟩
          intro _ name
          rw [← kept]
          exact Registry.contains_insert { name := spec.name, steps := .banner :: steps } name
            after.registry
        · rw [made, stopped]
          exact ⟨rfl, by rintro ⟨⟩⟩

/-- Scenarios are defined up to the first one that something stands in the way of. -/
theorem installAll_refused (specs : List ScenarioSpec) (suite : Suite) :
    (installAll specs suite).1 =
      refusal (obstacle (fun name => suite.registry.contains name) specs) := by
  induction specs generalizing suite with
  | nil => rfl
  | cons spec rest inductionHypothesis =>
      obtain ⟨refused, known⟩ := spec.install_refused suite
      rw [installAll, obstacle]
      split
      next after installed =>
        rw [installed] at refused known
        -- From here on the scenario is known, to the suite and to what stands in the way alike.
        have grown := funext (known rfl)
        rw [inductionHypothesis after, grown]
        cases found : spec.obstacle fun name => suite.registry.contains name with
        | none => rfl
        | some error =>
            rw [found] at refused
            cases refused
      next error after installed =>
        rw [installed] at refused
        cases found : spec.obstacle fun name => suite.registry.contains name with
        | none =>
            rw [found] at refused
            cases refused
        | some other =>
            rw [found] at refused
            exact refused

theorem ScenarioSpec.obstacle_eq_none_of_le {known more : String → Bool} {spec : ScenarioSpec}
    (le : ∀ name, known name = true → more name = true) (free : spec.obstacle known = none) :
    spec.obstacle more = none := by
  unfold obstacle at free ⊢
  rw [Option.or_eq_none_iff, Option.map_eq_none_iff, List.find?_eq_none] at free ⊢
  refine ⟨?_, free.2⟩
  intro name membership
  have knows := free.1 name membership
  simp only [Bool.not_eq_true', Bool.not_eq_false] at knows ⊢
  exact le name knows

theorem obstacle_eq_none_of_le {specs : List ScenarioSpec} {known more : String → Bool}
    (le : ∀ name, known name = true → more name = true) (free : obstacle known specs = none) :
    obstacle more specs = none := by
  induction specs generalizing known more with
  | nil => rfl
  | cons spec rest inductionHypothesis =>
      rw [obstacle, Option.or_eq_none_iff] at free ⊢
      refine ⟨ScenarioSpec.obstacle_eq_none_of_le le free.1, inductionHypothesis ?_ free.2⟩
      intro name knows
      rcases Bool.or_eq_true_iff.mp knows with own | before
      · exact Bool.or_eq_true_iff.mpr (.inl own)
      · exact Bool.or_eq_true_iff.mpr (.inr (le name before))

end Rehearsal

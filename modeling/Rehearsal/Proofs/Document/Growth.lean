import Rehearsal.Proofs.Document.Obstacle
import Rehearsal.Proofs.Document.Steps

/-!
What a document adds to a suite.

Whatever it describes is put behind the pipeline.  Where the scenarios that it depends on are its
own, nothing else is: no step that it adds comes from what the suite had before.
-/

namespace Rehearsal

namespace Suite

/-- Steps with a property have been put behind the pipeline. -/
def Grows (holds : Step → Prop) (suite after : Suite) : Prop :=
  ∃ added, after.pipeline = suite.pipeline ++ added ∧ ∀ item ∈ added, holds item.step

/-- The scenarios of these names are there, and their steps have a property. -/
def Knows (holds : Step → Prop) (known : String → Bool) (suite : Suite) : Prop :=
  ∀ name, known name = true →
    ∃ scenario, suite.registry.get? name = some scenario ∧ ∀ step ∈ scenario.steps, holds step

variable {holds : Step → Prop} {known : String → Bool} {suite middle after : Suite}

theorem Grows.refl (holds : Step → Prop) (suite : Suite) : suite.Grows holds suite :=
  ⟨[], by simp, by simp⟩

theorem Grows.trans (first : suite.Grows holds middle) (second : middle.Grows holds after) :
    suite.Grows holds after := by
  obtain ⟨front, grown, early⟩ := first
  obtain ⟨back, grownAgain, late⟩ := second
  refine ⟨front ++ back, by rw [grownAgain, grown, List.append_assoc], ?_⟩
  rw [List.forall_mem_append]
  exact ⟨early, late⟩

theorem Grows.mem (grows : suite.Grows holds after) {item : Scheduled}
    (membership : item ∈ suite.pipeline) : item ∈ after.pipeline := by
  obtain ⟨added, grown, -⟩ := grows
  rw [grown]
  exact List.mem_append_left added membership

theorem grows_schedule (name : String) {scenario : Scenario}
    (steps : ∀ step ∈ scenario.steps, holds step) (suite : Suite) :
    suite.Grows holds (suite.schedule name scenario) :=
  ⟨scenario.scheduled, rfl,
    fun item membership => steps item.step (Scenario.step_mem_of_scheduled membership)⟩

theorem grows_of_replay {names : List String}
    (replayed : Suite.replay names suite = (.ok (), after)) :
    suite.Grows (fun _ => True) after := by
  induction names generalizing suite with
  | nil =>
      cases replayed
      exact .refl _ _
  | cons name rest inductionHypothesis =>
      rw [Suite.replay, dependsOn] at replayed
      cases found : suite.registry.get? name with
      | none =>
          rw [found] at replayed
          cases replayed
      | some scenario =>
          rw [found] at replayed
          exact (grows_schedule name (fun _ _ => trivial) suite).trans
            (inductionHypothesis replayed)

theorem Knows.replay (knows : suite.Knows holds known) {names : List String}
    (all : ∀ name ∈ names, known name = true) :
    ∃ after, Suite.replay names suite = (.ok (), after) ∧ suite.Grows holds after ∧
      after.registry = suite.registry := by
  induction names generalizing suite with
  | nil => exact ⟨suite, rfl, .refl holds suite, rfl⟩
  | cons name rest inductionHypothesis =>
      rw [List.forall_mem_cons] at all
      obtain ⟨scenario, found, steps⟩ := knows name all.1
      have scheduled : suite.dependsOn name = .ok (suite.schedule name scenario) := by
        rw [dependsOn, found]
      have still : (suite.schedule name scenario).Knows holds known := knows
      obtain ⟨after, replayed, grows, kept⟩ := inductionHypothesis still all.2
      refine ⟨after, ?_, (grows_schedule name steps suite).trans grows, kept⟩
      rw [Suite.replay, scheduled]
      exact replayed

theorem Knows.scenario (knows : suite.Knows holds known) (name : String) {steps : List Step}
    (own : ∀ step ∈ Step.banner :: steps, holds step) :
    (suite.scenario name steps).Knows holds
      fun other => decide (name = other) || known other := by
  intro other named
  by_cases same : name = other
  · subst same
    exact ⟨_, Registry.get?_insert_self { name, steps := .banner :: steps } suite.registry, own⟩
  · have before : known other = true := by simpa [same] using named
    obtain ⟨scenario, found, steps'⟩ := knows other before
    refine ⟨scenario, ?_, steps'⟩
    rw [← found]
    exact Registry.get?_insert_of_ne same suite.registry

theorem grows_scenario (name : String) {steps : List Step}
    (own : ∀ step ∈ Step.banner :: steps, holds step) (suite : Suite) :
    suite.Grows holds (suite.scenario name steps) :=
  grows_schedule name own _

end Suite

variable {holds : Step → Prop} {known : String → Bool} {suite : Suite}

theorem ScenarioSpec.install_grows {spec : ScenarioSpec} (free : spec.obstacle known = none)
    (banner : holds .banner)
    (steps : ∀ step ∈ spec.steps, ∀ made, step.toStep = .ok made → holds made)
    (knows : suite.Knows holds known) :
    ∃ after, spec.install suite = (.ok (), after) ∧ suite.Grows holds after ∧
      after.Knows holds fun name => decide (spec.name = name) || known name := by
  rw [obstacle, Option.or_eq_none_iff, Option.map_eq_none_iff, List.find?_eq_none] at free
  obtain ⟨depends, makes⟩ := free
  have all : ∀ name ∈ spec.dependsOn, known name = true := by simpa using depends
  obtain ⟨replayed, done, grows, kept⟩ := knows.replay all
  rcases mapM_toStep spec.steps with ⟨made, mapped, -⟩ | ⟨fault, -, stopped⟩
  · have own : ∀ step ∈ Step.banner :: made, holds step := by
      rw [List.forall_mem_cons]
      refine ⟨banner, ?_⟩
      intro step membership
      obtain ⟨described, inside, makes⟩ := exists_of_mem_mapM mapped membership
      exact steps described inside step makes
    -- To depend on scenarios defines none of them anew.
    have still : replayed.Knows holds known := by
      unfold Suite.Knows
      rw [kept]
      exact knows
    refine ⟨replayed.scenario spec.name made, ?_,
      grows.trans (Suite.grows_scenario spec.name own replayed), still.scenario spec.name own⟩
    rw [install, done]
    simp only [mapped]
  · cases makes.symm.trans stopped

theorem installAll_grows {specs : List ScenarioSpec} (free : obstacle known specs = none)
    (banner : holds .banner)
    (steps : ∀ spec ∈ specs, ∀ step ∈ spec.steps, ∀ made, step.toStep = .ok made → holds made)
    (knows : suite.Knows holds known) :
    ∃ after, installAll specs suite = (.ok (), after) ∧ suite.Grows holds after := by
  induction specs generalizing suite known with
  | nil => exact ⟨suite, rfl, .refl holds suite⟩
  | cons spec rest inductionHypothesis =>
      rw [obstacle, Option.or_eq_none_iff] at free
      rw [List.forall_mem_cons] at steps
      obtain ⟨middle, installed, grows, still⟩ := spec.install_grows free.1 banner steps.1 knows
      obtain ⟨after, done, grown⟩ := inductionHypothesis free.2 steps.2 still
      refine ⟨after, ?_, grows.trans grown⟩
      rw [installAll, installed]
      exact done

theorem grows_of_installAll {specs : List ScenarioSpec} {after : Suite}
    (installed : installAll specs suite = (.ok (), after)) :
    suite.Grows (fun _ => True) after := by
  induction specs generalizing suite with
  | nil =>
      cases installed
      exact .refl _ _
  | cons spec rest inductionHypothesis =>
      unfold installAll at installed
      split at installed
      next middle first =>
        obtain ⟨replayed, steps, found, -, rfl⟩ := ScenarioSpec.install_eq_ok first
        exact ((Suite.grows_of_replay found).trans
          (Suite.grows_scenario spec.name (fun _ _ => trivial) replayed)).trans
            (inductionHypothesis installed)
      next => cases installed

theorem installAll_schedules {specs : List ScenarioSpec} {after : Suite}
    (installed : installAll specs suite = (.ok (), after)) {i : Nat} {spec : ScenarioSpec}
    (there : specs[i]? = some spec) :
    ∃ steps, spec.steps.mapM StepSpec.toStep = .ok steps ∧
      ∀ item ∈ ({ name := spec.name, steps := .banner :: steps } : Scenario).scheduled,
        item ∈ after.pipeline := by
  induction specs generalizing suite i with
  | nil => cases there
  | cons first rest inductionHypothesis =>
      unfold installAll at installed
      split at installed
      next middle defined =>
        cases i with
        | zero =>
            cases there
            obtain ⟨replayed, steps, -, made, rfl⟩ := ScenarioSpec.install_eq_ok defined
            refine ⟨steps, made, ?_⟩
            intro item membership
            exact (grows_of_installAll installed).mem
              (List.mem_append_right replayed.pipeline membership)
        | succ i => exact inductionHypothesis installed there
      next => cases installed

/-- Each step that a document describes is in the pipeline, in its place. -/
theorem Document.install_schedules {document : Document} {after : Suite}
    (installed : document.install suite = (.ok (), after)) {i j : Nat} {scenario : ScenarioSpec}
    {step : StepSpec} (there : document.scenarios[i]? = some scenario)
    (here : scenario.steps[j]? = some step) :
    ∃ made, step.toStep = .ok made ∧ ∃ item ∈ after.pipeline, item.step = made ∧
      item.context = { voice := made.voice, scenario := scenario.name, index := j + 1 } := by
  obtain ⟨steps, mapped, scheduled⟩ := installAll_schedules installed there
  obtain ⟨made, inside, makes⟩ := exists_of_getElem?_right (mapM_eq_ok_iff.mp mapped).flip here
  obtain ⟨short, rfl⟩ := List.getElem?_eq_some_iff.mp inside
  refine ⟨steps[j], makes, _, scheduled _ (List.mem_mapIdx.mpr ⟨j + 1, ?_, rfl⟩), rfl, rfl⟩
  simpa using short

end Rehearsal

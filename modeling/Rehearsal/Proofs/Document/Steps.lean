import Rehearsal.Document.Install
import Rehearsal.Proofs.Source.Record
import Rehearsal.Proofs.Suite.Steps

/-!
The steps of a document.

Every step that a document puts into a suite is a banner or made of a built-in action.
-/

namespace Rehearsal

theorem ActionSpec.toAction_builtIn {spec : ActionSpec} {action : Action}
    (made : spec.toAction = .ok action) : action.BuiltIn := by
  cases spec with
  | reached message url urlRegex =>
      cases pattern : UrlPattern.of url urlRegex with
      | error fault =>
          rw [toAction, pattern] at made
          cases made
      | ok pattern' =>
          rw [toAction, pattern] at made
          cases made
          exact .reached message pattern'
  | _ =>
      cases made
      constructor

theorem StepSpec.toStep_builtIn {spec : StepSpec} {step : Step} (made : spec.toStep = .ok step) :
    step.BuiltIn := by
  unfold toStep at made
  cases described : spec.action.toAction with
  | error fault =>
      rw [described] at made
      cases made
  | ok action =>
      rw [described] at made
      cases made
      exact (ActionSpec.toAction_builtIn described).voiced spec.voice

theorem Suite.Only.replay {holds : Step → Prop} {names : List String} {suite after : Suite}
    (only : suite.Only holds) (replayed : Suite.replay names suite = (.ok (), after)) :
    after.Only holds := by
  induction names generalizing suite with
  | nil =>
      cases replayed
      exact only
  | cons name rest inductionHypothesis =>
      unfold Suite.replay at replayed
      split at replayed
      next next found => exact inductionHypothesis (only.dependsOn found) replayed
      next => cases replayed

/-- A scenario that is installed is defined behind what it depends on. -/
theorem ScenarioSpec.install_eq_ok {spec : ScenarioSpec} {suite after : Suite}
    (installed : spec.install suite = (.ok (), after)) :
    ∃ replayed steps, Suite.replay spec.dependsOn suite = (.ok (), replayed) ∧
      spec.steps.mapM StepSpec.toStep = .ok steps ∧
      after = replayed.scenario spec.name steps := by
  unfold install at installed
  split at installed
  next => cases installed
  next replayed found =>
    split at installed
    next steps made =>
      cases installed
      exact ⟨replayed, steps, found, made, rfl⟩
    next => cases installed

theorem ScenarioSpec.install_builtIn {spec : ScenarioSpec} {suite after : Suite}
    (only : suite.Only Step.BuiltIn) (installed : spec.install suite = (.ok (), after)) :
    after.Only Step.BuiltIn := by
  obtain ⟨replayed, steps, found, made, rfl⟩ := install_eq_ok installed
  refine (only.replay found).scenario Step.banner_builtIn spec.name ?_
  intro step membership
  obtain ⟨described, -, made⟩ := exists_of_mem_mapM made membership
  exact StepSpec.toStep_builtIn made

theorem installAll_builtIn {specs : List ScenarioSpec} {suite after : Suite}
    (only : suite.Only Step.BuiltIn) (installed : installAll specs suite = (.ok (), after)) :
    after.Only Step.BuiltIn := by
  induction specs generalizing suite with
  | nil =>
      cases installed
      exact only
  | cons spec rest inductionHypothesis =>
      unfold installAll at installed
      split at installed
      next next found =>
        exact inductionHypothesis (ScenarioSpec.install_builtIn only found) installed
      next => cases installed

end Rehearsal

import Rehearsal.Document.Basic
import Rehearsal.Run.Basic

/-!
Documents put into a suite.

Scenarios are defined in the order of the document, each behind the scenarios that it depends on.
Whatever was done before something fails remains.
-/

namespace Rehearsal

/-- Schedules scenarios that have been defined before. -/
def Suite.replay : List String → Definition
  | [], suite => (.ok (), suite)
  | name :: rest, suite =>
      match suite.dependsOn name with
      | .ok suite => Suite.replay rest suite
      | .error error => (.error error, suite)

def ScenarioSpec.install (spec : ScenarioSpec) : Definition := fun suite =>
  match Suite.replay spec.dependsOn suite with
  | (.error error, suite) => (.error error, suite)
  | (.ok (), suite) =>
      match spec.steps.mapM StepSpec.toStep with
      | .ok steps => (.ok (), suite.scenario spec.name steps)
      | .error fault => (.error (.document fault), suite)

def installAll : List ScenarioSpec → Definition
  | [], suite => (.ok (), suite)
  | spec :: rest, suite =>
      match spec.install suite with
      | (.ok (), suite) => installAll rest suite
      | (.error error, suite) => (.error error, suite)

def Document.install (document : Document) : Definition :=
  installAll document.scenarios

end Rehearsal

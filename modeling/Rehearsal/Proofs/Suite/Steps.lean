import Rehearsal.Proofs.Step.BuiltIn
import Rehearsal.Suite

/-!
The steps of a suite.

What is true of the banner and of all steps that scenarios are defined with is true of every step
in the pipeline, however often the scenarios are defined and scheduled.
-/

namespace Rehearsal

namespace Registry

theorem get?_insert_self (scenario : Scenario) (registry : Registry) :
    (registry.insert scenario).get? scenario.name = some scenario :=
  Association.get?_insert_self scenario.name scenario registry.scenarios

theorem get?_insert_of_ne {scenario : Scenario} {name : String} (different : scenario.name ≠ name)
    (registry : Registry) : (registry.insert scenario).get? name = registry.get? name :=
  Association.get?_insert_of_ne different scenario registry.scenarios

theorem contains_iff {name : String} {registry : Registry} :
    registry.contains name = true ↔ ∃ scenario, registry.get? name = some scenario := by
  rw [contains, Association.contains, Option.isSome_iff_exists]
  rfl

theorem contains_insert (scenario : Scenario) (name : String) (registry : Registry) :
    (registry.insert scenario).contains name =
      (decide (scenario.name = name) || registry.contains name) := by
  by_cases same : scenario.name = name
  · subst same
    have held := get?_insert_self scenario registry
    simp [contains_iff.mpr ⟨scenario, held⟩]
  · have held := get?_insert_of_ne same registry
    unfold get? at held
    simp [contains, Association.contains, same, held]

end Registry

theorem Scenario.step_mem_of_scheduled {scenario : Scenario} {item : Scheduled}
    (membership : item ∈ scenario.scheduled) : item.step ∈ scenario.steps := by
  obtain ⟨index, inside, rfl⟩ := List.mem_mapIdx.mp membership
  exact List.getElem_mem inside

namespace Suite

/-- All steps of a suite, those it can schedule and those it has scheduled, have a property. -/
structure Only (holds : Step → Prop) (suite : Suite) : Prop where
  defined : ∀ name scenario, suite.registry.get? name = some scenario →
    ∀ step ∈ scenario.steps, holds step
  scheduled : ∀ item ∈ suite.pipeline, holds item.step

variable {holds : Step → Prop} {suite : Suite}

theorem empty_only (holds : Step → Prop) : Only holds .empty where
  defined name scenario found := by cases found
  scheduled item membership := by cases membership

theorem Only.schedule (only : suite.Only holds) (name : String) {scenario : Scenario}
    (steps : ∀ step ∈ scenario.steps, holds step) :
    (suite.schedule name scenario).Only holds where
  defined := only.defined
  scheduled item membership := by
    rcases List.mem_append.mp membership with before | added
    · exact only.scheduled item before
    · exact steps item.step (Scenario.step_mem_of_scheduled added)

theorem Only.dependsOn (only : suite.Only holds) {name : String} {after : Suite}
    (replayed : suite.dependsOn name = .ok after) : after.Only holds := by
  unfold Suite.dependsOn at replayed
  split at replayed
  next scenario found =>
    cases replayed
    exact only.schedule name (only.defined name scenario found)
  next => cases replayed

theorem Only.scenario (only : suite.Only holds) (banner : holds .banner) (name : String)
    {steps : List Step} (all : ∀ step ∈ steps, holds step) :
    (suite.scenario name steps).Only holds := by
  have own : ∀ step ∈ Step.banner :: steps, holds step := by
    intro step membership
    rcases List.mem_cons.mp membership with rfl | membership
    · exact banner
    · exact all step membership
  have inserted : ∀ trace, Only holds { suite with
      registry := suite.registry.insert { name, steps := .banner :: steps }, trace } := by
    intro trace
    refine ⟨?_, only.scheduled⟩
    intro other found get step membership
    by_cases same : name = other
    · subst same
      have held := Registry.get?_insert_self { name, steps := .banner :: steps } suite.registry
      cases held.symm.trans get
      exact own step membership
    · have kept : (suite.registry.insert { name, steps := .banner :: steps }).get? other =
          suite.registry.get? other := Registry.get?_insert_of_ne same suite.registry
      exact only.defined other found (kept.symm.trans get) step membership
  exact (inserted _).schedule name own

end Suite

end Rehearsal

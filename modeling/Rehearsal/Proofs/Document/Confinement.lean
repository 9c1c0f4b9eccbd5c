import Rehearsal.Proofs.Document.DryRun
import Rehearsal.Proofs.Document.Installing
import Rehearsal.Proofs.Document.Prediction
import Rehearsal.Proofs.Path.Components

/-!
Where the evidence of a document is kept.

Each picture lies in a directory that is named after its scenario.  Nothing is taken out of that
name, so that it decides whether the picture stays in the directory for all of them.
-/

namespace Rehearsal

namespace Suite

theorem scenario_of_mem_block {name : String} {steps : List Step} {item : Scheduled}
    (membership : item ∈ block name steps) : item.context.scenario = name := by
  rcases List.mem_cons.mp membership with rfl | behind
  · rfl
  · obtain ⟨place, inside, rfl⟩ := List.mem_mapIdx.mp behind
    rfl

theorem scenario_of_mem_block? {earlier : List Operation} {operation : Operation}
    {block : List Scheduled} {item : Scheduled} (scheduled : block? earlier operation = some block)
    (membership : item ∈ block) :
    item.context.scenario ∈ definedNames (earlier ++ [operation]) := by
  obtain ⟨steps, latest, rfl⟩ := Option.map_eq_some_iff.mp scheduled
  rw [scenario_of_mem_block membership, mem_definedNames_iff]
  by_contra absent
  rw [latest?_eq_none_iff.mpr (not_exists.mp absent)] at latest
  cases latest

/-- Only scenarios that have been defined have steps in the pipeline. -/
theorem scenario_of_mem_pipeline {operations : List Operation} {item : Scheduled}
    (membership : item ∈ (behind operations).pipeline) :
    item.context.scenario ∈ definedNames operations := by
  induction operations using List.reverseRecOn with
  | nil => cases membership
  | append_singleton operations operation inductionHypothesis =>
      rw [behind_append_singleton, pipeline_perform, List.mem_append] at membership
      rcases membership with earlier | added
      · have defined := inductionHypothesis earlier
        rw [definedNames, List.filterMap_append]
        exact List.mem_append_left _ defined
      · obtain ⟨block, scheduled, inside⟩ := List.mem_flatten.mp added
        exact scenario_of_mem_block? (Option.mem_toList.mp scheduled) inside

end Suite

namespace Document

theorem scenario_of_install {document : Document} {suite : Suite} {item : Scheduled}
    (installed : document.install .empty = (.ok (), suite)) (membership : item ∈ suite.pipeline) :
    ∃ spec ∈ document.scenarios, spec.name = item.context.scenario := by
  obtain ⟨done, performed, -⟩ := document.install_performs .empty
  obtain ⟨operations, amount, grown, -⟩ := performed (done.mp (by rw [installed]))
  cases installed.symm.trans grown
  have defined : item.context.scenario ∈ Suite.definedNames operations.flatten :=
    Suite.scenario_of_mem_pipeline membership
  rw [← Suite.contains_behind] at defined
  rcases (Suite.contains_performAll_flatten amount .empty _).mp defined with before | named
  · cases before
  · exact List.mem_map.mp named

end Document

/-- The evidence of a row is kept in a directory for its scenario. -/
structure PlanRow.Keeps (row : PlanRow) (captureDir path : String) : Prop where
  named : path =
    Path.join (Path.join captureDir row.scenario) (Evidence.fileName row.index row.message)
  /-- The directory lies below that for all evidence, if its name does not lead up. -/
  relative : Path.isAbsolute row.scenario = false →
    (Path.Inside captureDir path ↔ ".." ∉ Path.components row.scenario)
  /-- A name from the root has nothing to do with the directory for all evidence. -/
  absolute : Path.isAbsolute row.scenario = true →
    Path.isAbsolute path = true ∧
      Path.components path =
        Path.components row.scenario ++ [Evidence.fileName row.index row.message]

theorem Scheduled.planRow_keeps {config : Config} {item : Scheduled} {path : String}
    (kept : (item.planRow config).evidence = some path) :
    (item.planRow config).Keeps config.captureDir path := by
  by_cases banner : item.step.strategy = .banner
  · rw [planRow_of_banner banner] at kept
    cases kept
  · rw [planRow_of_ne_banner banner] at kept ⊢
    cases kept
    have plain := Evidence.fileName_plain item.context.index item.step.message
    refine ⟨rfl, fun relative => Path.inside_join_iff relative plain config.captureDir, ?_⟩
    intro absolute
    have alone := Path.join_of_absolute absolute config.captureDir
    dsimp only [Context.evidence, Evidence.of, Evidence.pathFor]
    rw [alone, Path.isAbsolute_join plain.relative]
    exact ⟨absolute, plain.components_join item.context.scenario⟩

namespace Document

/-- A sound document has a plan, and each piece of evidence in it is kept under the name of one of
the scenarios of the document.  It lies in the directory for all evidence as long as that name
neither begins at the root nor leads up. -/
theorem evidence_kept (config : Config) {document : Document}
    (clean : ∀ diagnostic ∈ document.diagnostics, diagnostic.isError = false) :
    ∃ plan, document.plan config = .ok plan ∧
      ∀ row ∈ plan.rows, ∀ path, row.evidence = some path →
        (∃ spec ∈ document.scenarios, spec.name = row.scenario) ∧
          row.Keeps config.captureDir path := by
  obtain ⟨suite, installed⟩ := exists_install_of_clean clean .empty
  refine ⟨_, plan_of_install config installed, ?_⟩
  intro row membership path kept
  obtain ⟨item, inside, rfl⟩ := List.mem_map.mp membership
  rw [item.scenario_planRow config]
  exact ⟨scenario_of_install installed inside, Scheduled.planRow_keeps kept⟩

/-- There is nothing wrong with the shopping, so each of its pictures is kept under one of its two
names. -/
theorem shopping_kept :
    shopping.diagnostics = [] ∧
      ∃ plan, shopping.plan .default = .ok plan ∧
        ∀ row ∈ plan.rows, ∀ path, row.evidence = some path →
          (∃ spec ∈ shopping.scenarios, spec.name = row.scenario) ∧
            row.Keeps "./capture" path :=
  have silent : shopping.diagnostics = [] := by cbv
  ⟨silent, evidence_kept .default (by simp [silent])⟩

/-- A scenario that is named after a directory of the machine, and one that is named after what lies
above. -/
def straying : Document :=
  { entryUrl := "/"
    scenarios := [
      { name := "/srv"
        dependsOn := []
        steps := [{ voice := .given, action := .am "home" "#home" }] },
      { name := ".."
        dependsOn := []
        steps := [{ voice := .given, action := .am "home" "#home" }] }] }

/-- Nothing is said against the names, and no evidence lies where it belongs. -/
theorem straying_escapes :
    straying.diagnostics = [] ∧
      ∃ plan, straying.plan .default = .ok plan ∧
        plan.rows.filterMap PlanRow.evidence =
          ["/srv/1-Given I am home.png", "./capture/../1-Given I am home.png"] ∧
        ∀ path ∈ plan.rows.filterMap PlanRow.evidence, ¬Path.Inside "./capture" path := by
  obtain ⟨plan, planned⟩ : ∃ plan, straying.plan .default = .ok plan := ⟨_, rfl⟩
  have paths : plan.rows.filterMap PlanRow.evidence =
      ["/srv/1-Given I am home.png", "./capture/../1-Given I am home.png"] := by
    cases planned
    rfl
  refine ⟨by cbv, plan, planned, paths, ?_⟩
  intro path membership
  rw [paths, List.mem_pair] at membership
  rcases membership with rfl | rfl
  · rintro ⟨same, -⟩
    exact absurd same (by decide)
  · have plain := Evidence.fileName_plain 1 "Given I am home"
    have inside := Path.inside_join_iff (by decide : Path.isAbsolute ".." = false) plain "./capture"
    exact inside.not.mpr (by decide)

end Document

end Rehearsal

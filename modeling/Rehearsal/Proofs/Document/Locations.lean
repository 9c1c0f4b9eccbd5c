import Rehearsal.Document.Plan
import Rehearsal.Proofs.Document.Attribution
import Rehearsal.Proofs.Document.Growth
import Rehearsal.Proofs.Document.Installing
import Rehearsal.Proofs.Document.Survey

/-!
Where the diagnostics of a document point to.

Each of them names the scenario and the step that it is about, and it numbers the step as the
installation of the document does: the banner of a scenario has place zero, and so the first of its
steps is step one.
-/

namespace Rehearsal

/-- The block holds the banner of a scenario in place zero and each of its steps, under its number,
in the place of that number. -/
structure ScenarioSpec.Numbers (spec : ScenarioSpec) (block : List Scheduled) : Prop where
  length : block.length = spec.steps.length + 1
  banner : ∃ item, block[0]? = some item ∧ item.step.strategy = .banner ∧
    item.context.scenario = spec.name ∧ item.context.index = 0
  steps : ∀ j step, spec.steps[j]? = some step →
    ∃ item, block[j + 1]? = some item ∧ step.toStep = .ok item.step ∧
      item.context.scenario = spec.name ∧ item.context.index = j + 1

theorem ScenarioSpec.numbers_block {spec : ScenarioSpec} {steps : List Step}
    (made : List.Forall₂ (fun described made => StepSpec.toStep described = .ok made) spec.steps
      steps) : spec.Numbers (Suite.block spec.name steps) where
  length := by simp [Suite.block, made.length_eq]
  banner := ⟨_, rfl, rfl, rfl, rfl⟩
  steps := by
    intro j step here
    obtain ⟨result, there, makes⟩ := exists_of_getElem?_right made.flip here
    refine ⟨{ context := { voice := result.voice, scenario := spec.name, index := j + 1 }
              step := result }, ?_, makes, rfl, rfl⟩
    simp [Suite.block, there]

/-- A scenario that is installed behind others has its steps in a block of its own. -/
theorem installAll_numbers {before : List ScenarioSpec} {spec : ScenarioSpec} {suite late : Suite}
    (installed : installAll (before ++ [spec]) suite = (.ok (), late)) :
    ∃ early block,
      installAll before suite = (.ok (), early) ∧
      late.pipeline = early.pipeline ++ (spec.dependsOn.flatMap early.inForce ++ block) ∧
      spec.Numbers block := by
  have resolves := Suite.resolves_of_installAll (congrArg Prod.fst installed)
  obtain ⟨early, other, steps, first, again, made, grown⟩ := Suite.pipeline_of_resolves resolves
  cases installed.symm.trans again
  exact ⟨early, _, first, grown, ScenarioSpec.numbers_block made⟩

/-- What has been installed stays where it is, whatever is installed behind it. -/
theorem installAll_front {before behind : List ScenarioSpec} {suite after : Suite}
    (installed : installAll (before ++ behind) suite = (.ok (), after)) :
    ∃ early later, installAll before suite = (.ok (), early) ∧
      after.pipeline = early.pipeline ++ later := by
  have resolves := (Suite.resolves_of_installAll (congrArg Prod.fst installed)).front
  obtain ⟨operations, amount⟩ := resolves.exists_amount
  have first := resolves.installAll amount
  rw [Suite.installAll_append first] at installed
  obtain ⟨later, grown, -⟩ := grows_of_installAll installed
  exact ⟨_, later, first, grown⟩

namespace Document

/-- Nothing but what is told of the document as a whole goes without a location. -/
theorem located_of_told (document : Document) {subject : Subject} (part : subject ≠ .document)
    {diagnostic : Diagnostic} (membership : diagnostic ∈ document.told subject) :
    diagnostic.location ≠ none := by
  cases subject with
  | document => exact (part rfl).elim
  | scenario i =>
      simp only [told] at membership
      split at membership
      · obtain ⟨finding, -, rfl⟩ := List.mem_map.mp membership
        rintro ⟨⟩
      · cases membership
  | step i j =>
      simp only [told, ScenarioSpec.toldOfStep] at membership
      split at membership
      · split at membership
        · obtain ⟨finding, -, rfl⟩ := List.mem_map.mp membership
          rintro ⟨⟩
        · cases membership
      · cases membership

/-- What is told of the document as a whole, and behind that what is told of its parts. -/
theorem diagnostics_split (document : Document) :
    ∃ parts, document.diagnostics = document.told .document ++ parts ∧
      ∀ diagnostic ∈ parts, diagnostic.location ≠ none := by
  refine ⟨(document.scenarios.mapIdx subjectsOf).flatten.flatMap document.told,
    document.diagnostics_eq, ?_⟩
  intro diagnostic membership
  obtain ⟨subject, inside, told⟩ := List.mem_flatMap.mp membership
  refine document.located_of_told ?_ told
  rintro rfl
  simp [subjectsOf] at inside

theorem told_document (document : Document) :
    document.told .document =
      if Text.isBlank document.entryUrl then
        [{ level := .error, location := none, message := "entry_url cannot be empty" }]
      else [] := by
  unfold told
  cases Text.isBlank document.entryUrl <;> rfl

/-- Every diagnostic points to what it is about, by the name and the number under which that is
scheduled. -/
structure Located (document : Document) : Prop where
  /-- Every place that is entered is left again before the next scenario is looked at. -/
  balanced : ∀ count, (document.surveyed count).stack = []
  surveyed : document.survey.diagnostics = document.diagnostics
  /-- Scenario by scenario, and step by step, in the order of the document. -/
  ordered : document.diagnostics = document.subjects.flatMap document.told
  ofDocument : document.told .document =
    if Text.isBlank document.entryUrl then
      [{ level := .error, location := none, message := "entry_url cannot be empty" }]
    else []
  placeless : ∀ (place : Nat) (diagnostic : Diagnostic),
    document.diagnostics[place]? = some diagnostic →
      (diagnostic.location = none ↔ place = 0 ∧ Text.isBlank document.entryUrl = true)
  ofScenario : ∀ (i : Nat) (spec : ScenarioSpec), document.scenarios[i]? = some spec →
    let earlier := (document.scenarios.take i).map ScenarioSpec.name
    let all := document.scenarios.map ScenarioSpec.name
    document.told (.scenario i) =
      (foundIf (Text.isBlank spec.name) .scenarioNameBlank ++
        foundIf (earlier.contains spec.name) (.redefined spec.name) ++
        (spec.dependsOn.flatMap fun name =>
          if earlier.contains name then []
          else if all.contains name then [Finding.definedLater name]
          else [Finding.undefined name]) ++
        foundIf spec.steps.isEmpty .noSteps).map
          (Finding.at (some ("scenario " ++ spec.name)))
  ofStep : ∀ (i j : Nat) (spec : ScenarioSpec) (step : StepSpec),
    document.scenarios[i]? = some spec → spec.steps[j]? = some step →
      ∃ notes, document.told (.step i j) =
        (step.action.findings notes).map (Finding.at (some ("scenario " ++ spec.name ++
          " > step " ++ toString (j + 1) ++ " (" ++ step.action.name ++ ")")))
  /-- As far as the document can be installed, its steps have the same numbers in the pipeline. -/
  scheduled : ∀ before spec behind, document.scenarios = before ++ spec :: behind →
    ∀ suite late, installAll (before ++ [spec]) suite = (.ok (), late) →
      ∃ early block,
        installAll before suite = (.ok (), early) ∧
        late.pipeline = early.pipeline ++ (spec.dependsOn.flatMap early.inForce ++ block) ∧
        spec.Numbers block
  /-- And so they have in a plan of the document. -/
  planned : ∀ config plan, document.plan config = .ok plan →
    ∀ before spec behind, document.scenarios = before ++ spec :: behind →
      ∃ early block later,
        installAll before .empty = (.ok (), early) ∧ spec.Numbers block ∧
        plan.rows = (early.pipeline ++ (spec.dependsOn.flatMap early.inForce ++ block) ++
          later).map (Scheduled.planRow config) ∧
        ∀ j step, spec.steps[j]? = some step →
          ∃ row, (block.map (Scheduled.planRow config))[j + 1]? = some row ∧
            row.scenario = spec.name ∧ row.index = j + 1 ∧
            ∀ diagnostic ∈ document.told (.step before.length j),
              diagnostic.location = some (step.location spec row.index)

theorem diagnostics_located (document : Document) : document.Located where
  balanced := document.stack_surveyed
  surveyed := document.diagnostics_survey
  ordered := document.diagnostics_eq
  ofDocument := document.told_document
  placeless := by
    intro place diagnostic found
    obtain ⟨parts, split, located⟩ := document.diagnostics_split
    rw [split, told_document] at found
    cases blank : Text.isBlank document.entryUrl with
    | false =>
        rw [blank] at found
        exact iff_of_false (located _ (List.mem_of_getElem? found)) (by rintro ⟨-, ⟨⟩⟩)
    | true =>
        rw [blank] at found
        cases place with
        | zero =>
            cases found
            exact iff_of_true rfl ⟨rfl, rfl⟩
        | succ place =>
            exact iff_of_false (located _ (List.mem_of_getElem? found)) (by rintro ⟨⟨⟩, -⟩)
  ofScenario := by
    intro i spec there
    simp [told, there, ScenarioSpec.findings, dependencyFindings, ScenarioSpec.location]
  ofStep := by
    intro i j spec step there here
    exact document.told_step there here
  scheduled := by
    intro before spec behind _ suite late
    exact installAll_numbers
  planned := by
    intro config plan planned before spec behind split
    unfold Document.plan at planned
    split at planned
    next after installed =>
      cases planned
      rw [install, split, ← List.singleton_append, ← List.append_assoc] at installed
      obtain ⟨late, later, first, grown⟩ := installAll_front installed
      obtain ⟨early, block, foregoing, put, numbers⟩ := installAll_numbers first
      refine ⟨early, block, later, foregoing, numbers, by rw [Suite.plan, grown, put], ?_⟩
      intro j step here
      obtain ⟨item, there, -, scenario, index⟩ := numbers.steps j step here
      refine ⟨item.planRow config, by rw [List.getElem?_map, there]; rfl,
        (item.scenario_planRow config).trans scenario, (item.index_planRow config).trans index, ?_⟩
      have place : document.scenarios[before.length]? = some spec := by simp [split]
      obtain ⟨notes, told⟩ := document.told_step place here
      rw [told, item.index_planRow, index]
      intro diagnostic membership
      obtain ⟨finding, -, rfl⟩ := List.mem_map.mp membership
      rfl
    next => cases planned

/-- A checkout behind a login, with a blank address and two odd steps. -/
def misprinted : Document :=
  { entryUrl := " "
    scenarios := [
      { name := "Login"
        dependsOn := []
        steps := [{ voice := .given, action := .am "on the login page" "#login" }] },
      { name := "Checkout"
        dependsOn := ["Login"]
        steps := [
          { voice := .when, action := .click "the cart" "#cart" },
          { voice := .then, action := .seeTheValueOf "the total" "" (.number (.integer 12)) }] }] }

/-- The odd step is the second of its scenario, and the last of three rows in the block of it,
though there is a login in front of that once more. -/
theorem misprinted_located :
    misprinted.diagnostics.map Diagnostic.location =
        [none, some "scenario Checkout > step 2 (see_the_value_of)",
          some "scenario Checkout > step 2 (see_the_value_of)"] ∧
      (misprinted.plan .default).map (fun plan =>
          plan.rows.map fun row => (row.scenario, row.index)) =
        .ok [("Login", 0), ("Login", 1), ("Login", 0), ("Login", 1), ("Checkout", 0),
          ("Checkout", 1), ("Checkout", 2)] ∧
      misprinted.Located :=
  ⟨by decide +kernel, rfl, misprinted.diagnostics_located⟩

end Document

end Rehearsal

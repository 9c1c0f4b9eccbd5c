import Rehearsal.Document.Validation

/-!
Documents looked through from place to place.

One who looks through a document keeps a stack with the labels of the places that have been entered
and not yet left, and says whatever there is to say of the place at hand.  Every place that is
entered is left again, whatever has been said in it, and what has been said in the end are the
diagnostics of the document.
-/

namespace Rehearsal

/-- What is kept in mind while a document is looked through. -/
structure Survey where
  /-- The labels of the places that have been entered and not yet left, from the outside in. -/
  stack : List String
  diagnostics : List Diagnostic
  /-- The names of the scenarios so far. -/
  defined : List String
  /-- The names under which something has been noted down so far. -/
  notes : List String

namespace Survey

/-- Nothing has been looked at yet. -/
def start : Survey :=
  { stack := [], diagnostics := [], defined := [], notes := [] }

def push (label : String) (survey : Survey) : Survey :=
  { survey with stack := survey.stack ++ [label] }

def pop (survey : Survey) : Survey :=
  { survey with stack := survey.stack.dropLast }

/-- The place at hand; nothing when that is the document as a whole. -/
def location (survey : Survey) : Option String :=
  if survey.stack.isEmpty then none else some (" > ".intercalate survey.stack)

/-- Says something of the place at hand. -/
def say (finding : Finding) (survey : Survey) : Survey :=
  { survey with diagnostics := survey.diagnostics ++ [finding.at survey.location] }

def sayIf (condition : Bool) (finding : Finding) (survey : Survey) : Survey :=
  if condition then survey.say finding else survey

/-- The value of a field must not be blank. -/
def require (field value : String) (survey : Survey) : Survey :=
  survey.sayIf (Text.isBlank value) (.blank field)

/-- Looks at an action. -/
def action : ActionSpec → Survey → Survey
  | .am _ selector, survey | .click _ selector, survey | .find _ selector, survey
  | .findTheVisible _ selector, survey | .cannotFindThe _ selector, survey =>
      survey.require "selector" selector
  | .see _ text, survey | .canSee _ text, survey | .shouldNotSee _ text, survey =>
      survey.require "text" text
  | .clickTheLabel label, survey => survey.require "label" label
  | .goTo _ url, survey => survey.require "url" url
  | .reached _ url urlRegex, survey =>
      let survey := survey.sayIf (url.isSome && urlRegex.isSome) .bothUrls
      match UrlPattern.of url urlRegex with
      | .ok _ => survey
      | .error fault => survey.say (.badUrl fault)
  | .fill _ selector fields autoSubmit, survey =>
      let survey := (survey.require "selector" selector).sayIf fields.isEmpty .noFields
      match autoSubmit with
      | none | some (.bool _) => survey
      | some value => survey.say (.oddSubmit value)
  | .seeTheValueOf _ selector expected, survey =>
      (survey.require "selector" selector).sayIf (!expected.isText) (.oddExpectation expected)
  | .noteDown message selector property, survey =>
      let survey := (survey.require "selector" selector).require "attribute" property
      let again := survey.notes.contains message
      { survey with notes := message :: survey.notes }.sayIf again (.notedAgain message)

/-- Looks at a step; place zero is that of the banner. -/
def step (number : Nat) (step : StepSpec) (survey : Survey) : Survey :=
  ((survey.push ("step " ++ toString number ++ " (" ++ step.action.name ++ ")")).action
    step.action).pop

def steps : Nat → List StepSpec → Survey → Survey
  | _, [], survey => survey
  | number, step :: rest, survey => steps (number + 1) rest (survey.step number step)

/-- Looks at a name that a scenario depends on. -/
def dependency (all : List String) (survey : Survey) (name : String) : Survey :=
  if survey.defined.contains name then survey
  else if all.contains name then survey.say (.definedLater name)
  else survey.say (.undefined name)

/-- Looks at a scenario apart from its steps. -/
def heading (all : List String) (spec : ScenarioSpec) (survey : Survey) : Survey :=
  let survey := survey.sayIf (Text.isBlank spec.name) .scenarioNameBlank
  let survey := survey.sayIf (survey.defined.contains spec.name) (.redefined spec.name)
  let survey := spec.dependsOn.foldl (dependency all) survey
  survey.sayIf spec.steps.isEmpty .noSteps

/-- Looks at a scenario, from its name to the last of its steps. -/
def scenario (all : List String) (survey : Survey) (spec : ScenarioSpec) : Survey :=
  let survey := ((survey.push ("scenario " ++ spec.name)).heading all spec).steps 1 spec.steps
  { survey with defined := spec.name :: survey.defined }.pop

end Survey

/-- Looks at a document and the first of its scenarios, as many as `count` says. -/
def Document.surveyed (document : Document) (count : Nat) : Survey :=
  (document.scenarios.take count).foldl
    (Survey.scenario (document.scenarios.map ScenarioSpec.name))
    (Survey.start.sayIf (Text.isBlank document.entryUrl) .entryUrlBlank)

/-- Looks through a document from its beginning to its end. -/
def Document.survey (document : Document) : Survey :=
  document.surveyed document.scenarios.length

namespace Survey

variable {survey : Survey}

/-- Says one thing after the other of the place at hand. -/
def tell (findings : List Finding) (survey : Survey) : Survey :=
  { survey with diagnostics := survey.diagnostics ++ findings.map (Finding.at survey.location) }

@[simp]
theorem tell_nil (survey : Survey) : survey.tell [] = survey := by
  rw [tell, List.map_nil, List.append_nil]

/-- Whatever is said leaves the place where it is. -/
@[simp]
theorem tell_tell (front back : List Finding) (survey : Survey) :
    (survey.tell front).tell back = survey.tell (front ++ back) := by
  simp [tell, location]

theorem sayIf_eq_tell (condition : Bool) (finding : Finding) (survey : Survey) :
    survey.sayIf condition finding = survey.tell (foundIf condition finding) := by
  cases condition with
  | true => rfl
  | false => exact survey.tell_nil.symm

theorem require_eq_tell (field value : String) (survey : Survey) :
    survey.require field value = survey.tell (blankField field value) :=
  survey.sayIf_eq_tell _ _

/-- All that comes of looking at an action is what there is to say about it, and what it notes
down. -/
theorem action_eq (spec : ActionSpec) (survey : Survey) :
    survey.action spec =
      { survey.tell (spec.findings survey.notes) with
        notes := spec.note?.toList ++ survey.notes } := by
  cases spec with
  | reached message url urlRegex =>
      simp only [action, ActionSpec.findings, sayIf_eq_tell]
      cases UrlPattern.of url urlRegex with
      | ok pattern => simp [ActionSpec.note?, tell]
      | error fault => simp [ActionSpec.note?, tell, say, location]
  | fill message selector fields autoSubmit =>
      simp only [action, ActionSpec.findings, sayIf_eq_tell, require_eq_tell, tell_tell]
      split
      · simp [ActionSpec.note?, tell]
      · simp [ActionSpec.note?, tell]
      · simp [ActionSpec.note?, tell, say, location]
  | noteDown message selector property =>
      simp only [action, ActionSpec.findings, sayIf_eq_tell, require_eq_tell, tell_tell]
      simp [ActionSpec.note?, tell, location]
  | _ =>
      simp only [action, ActionSpec.findings, sayIf_eq_tell, require_eq_tell, tell_tell]
      rfl

theorem location_push_outside (outside : survey.stack = []) (label : String) :
    (survey.push label).location = some label := by
  rw [location, push, outside]
  rfl

theorem location_push_inside {outer : String} (inside : survey.stack = [outer])
    (label : String) : (survey.push label).location = some (outer ++ " > " ++ label) := by
  rw [location, push, inside, List.singleton_append, String.intercalate_cons_cons,
    String.intercalate_singleton]
  rfl

/-- A step that is entered from its scenario is left for its scenario. -/
theorem step_eq {spec : ScenarioSpec} (inside : survey.stack = [spec.location]) (number : Nat)
    (step : StepSpec) :
    survey.step number step =
      { survey with
        diagnostics := survey.diagnostics ++ (step.action.findings survey.notes).map
          (Finding.at (some (step.location spec number)))
        notes := step.action.note?.toList ++ survey.notes } := by
  have words : " > step " = " > " ++ "step " := rfl
  have place : (survey.push
      ("step " ++ toString number ++ " (" ++ step.action.name ++ ")")).location =
        some (step.location spec number) := by
    rw [location_push_inside inside, StepSpec.location, words]
    simp only [String.append_assoc]
  rw [Survey.step, action_eq]
  simp only [pop, tell, place]
  simp [push]

theorem steps_eq {spec : ScenarioSpec} (inside : survey.stack = [spec.location]) (number : Nat)
    (steps : List StepSpec) :
    survey.steps number steps =
      { survey with
        diagnostics :=
          survey.diagnostics ++ (stepDiagnostics spec number survey.notes steps).1
        notes := (stepDiagnostics spec number survey.notes steps).2 } := by
  induction steps generalizing survey number with
  | nil => simp [Survey.steps, stepDiagnostics]
  | cons step rest inductionHypothesis =>
      rw [Survey.steps, step_eq inside, inductionHypothesis, stepDiagnostics]
      · simp
      · exact inside

theorem foldl_dependency (all names : List String) (survey : Survey) :
    names.foldl (dependency all) survey =
      survey.tell (dependencyFindings all survey.defined names) := by
  induction names generalizing survey with
  | nil => exact survey.tell_nil.symm
  | cons name rest inductionHypothesis =>
      have here : survey.dependency all name = survey.tell
          (if survey.defined.contains name then []
            else if all.contains name then [.definedLater name] else [.undefined name]) := by
        unfold dependency
        split
        · exact survey.tell_nil.symm
        · split <;> rfl
      rw [List.foldl_cons, inductionHypothesis, here, tell_tell]
      rfl

theorem heading_eq (all : List String) (spec : ScenarioSpec) (survey : Survey) :
    survey.heading all spec = survey.tell (spec.findings all survey.defined) := by
  unfold heading
  simp only [sayIf_eq_tell, foldl_dependency, tell_tell]
  rfl

/-- A scenario that is entered from outside is left for the outside. -/
theorem scenario_eq (outside : survey.stack = []) (all : List String) (spec : ScenarioSpec) :
    survey.scenario all spec =
      { stack := []
        diagnostics := survey.diagnostics ++
          ((spec.findings all survey.defined).map (Finding.at (some spec.location)) ++
            (stepDiagnostics spec 1 survey.notes spec.steps).1)
        defined := spec.name :: survey.defined
        notes := (stepDiagnostics spec 1 survey.notes spec.steps).2 } := by
  have entered : (survey.push spec.location).stack = [spec.location] := by
    rw [push, outside]
    rfl
  have place := location_push_outside outside spec.location
  rw [scenario, ← ScenarioSpec.location, heading_eq, steps_eq]
  · simp only [pop, tell, entered, place, List.append_assoc]
    rfl
  · exact entered

/-- Scenario after scenario is entered and left, and nothing is said but their diagnostics. -/
theorem foldl_scenario (outside : survey.stack = []) (all : List String)
    (specs : List ScenarioSpec) :
    (specs.foldl (scenario all) survey).stack = [] ∧
      (specs.foldl (scenario all) survey).diagnostics =
        survey.diagnostics ++ scenarioDiagnostics all survey.defined survey.notes specs := by
  induction specs generalizing survey with
  | nil => exact ⟨outside, (List.append_nil _).symm⟩
  | cons spec rest inductionHypothesis =>
      rw [List.foldl_cons, scenarioDiagnostics]
      have left := scenario_eq outside all spec
      generalize survey.scenario all spec = next at left ⊢
      obtain ⟨balanced, told⟩ := @inductionHypothesis next (by rw [left])
      refine ⟨balanced, ?_⟩
      rw [told, left]
      simp

end Survey

namespace Document

theorem surveyed_eq (document : Document) (count : Nat) :
    (document.surveyed count).stack = [] ∧
      (document.surveyed count).diagnostics =
        (foundIf (Text.isBlank document.entryUrl) .entryUrlBlank).map (Finding.at none) ++
          scenarioDiagnostics (document.scenarios.map ScenarioSpec.name) [] []
            (document.scenarios.take count) := by
  rw [surveyed, Survey.sayIf_eq_tell]
  exact Survey.foldl_scenario rfl _ _

/-- Between two scenarios no place is at hand. -/
theorem stack_surveyed (document : Document) (count : Nat) :
    (document.surveyed count).stack = [] :=
  (document.surveyed_eq count).1

theorem diagnostics_survey (document : Document) :
    document.survey.diagnostics = document.diagnostics := by
  rw [survey, (document.surveyed_eq _).2, List.take_length]
  rfl

end Document

end Rehearsal

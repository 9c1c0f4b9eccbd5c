import Rehearsal.Document.Basic

/-!
Documents looked through before anything is scheduled.

An error is a mistake that would stop the run, or a step that could not mean anything; a warning is
about something that is likely not to be what its author wants.
-/

namespace Rehearsal

inductive Severity where
  | error
  | warning
  deriving DecidableEq, Repr, Inhabited

structure Diagnostic where
  level : Severity
  /-- What the diagnostic is about; nothing when that is the document as a whole. -/
  location : Option String
  message : String
  deriving DecidableEq, Repr, Inhabited

/-- What there is to say about a document. -/
inductive Finding where
  | entryUrlBlank
  | scenarioNameBlank
  | redefined (name : String)
  | definedLater (name : String)
  | undefined (name : String)
  | noSteps
  | blank (field : String)
  | bothUrls
  | badUrl (fault : DocumentFault)
  | noFields
  | oddSubmit (value : Json)
  | oddExpectation (value : Json)
  | notedAgain (name : String)
  deriving Repr, Inhabited

namespace Finding

def level : Finding → Severity
  | .redefined _ | .noSteps | .bothUrls | .noFields | .oddSubmit _ | .oddExpectation _
  | .notedAgain _ => .warning
  | _ => .error

def message : Finding → String
  | .entryUrlBlank => "entry_url cannot be empty"
  | .scenarioNameBlank => "scenario name cannot be empty"
  | .redefined name =>
      "scenario '" ++ name ++ "' is defined more than once; the last definition wins"
  | .definedLater name =>
      "depends on '" ++ name ++ "', which is only defined later in the document"
  | .undefined name => "depends on undefined scenario '" ++ name ++ "'"
  | .noSteps => "scenario has no steps; only its banner will run"
  | .blank field => field ++ " cannot be empty"
  | .bothUrls => "both url and url_regex are set; url_regex is used"
  | .badUrl fault => (Error.document fault).message
  | .noFields => "fill has no fields"
  | .oddSubmit value =>
      "auto_submit is " ++ value.compact ++ ", not a boolean; the form will not be submitted"
  | .oddExpectation value =>
      "expected value " ++ value.compact ++ " is not a string; fetched text will never equal it"
  | .notedAgain name =>
      "note '" ++ name ++ "' is recorded more than once; later values overwrite earlier ones"

end Finding

/-- Where a scenario stands, in words. -/
def ScenarioSpec.location (spec : ScenarioSpec) : String :=
  "scenario " ++ spec.name

/-- Where a step of a scenario stands; the first one has number one. -/
def StepSpec.location (scenario : ScenarioSpec) (number : Nat) (step : StepSpec) : String :=
  scenario.location ++ " > step " ++ toString number ++ " (" ++ step.action.name ++ ")"

def Finding.at (location : Option String) (finding : Finding) : Diagnostic :=
  { level := finding.level, location, message := finding.message }

/-- A finding, if it applies. -/
def foundIf (condition : Bool) (finding : Finding) : List Finding :=
  if condition then [finding] else []

/-- The value of a field must not be blank. -/
def blankField (field value : String) : List Finding :=
  foundIf (Text.isBlank value) (.blank field)

namespace ActionSpec

/-- The name under which an action notes something down. -/
def note? : ActionSpec → Option String
  | .noteDown message .. => some message
  | _ => none

/-- What there is to say about an action; `notes` are the names under which something has been
noted down before. -/
def findings (notes : List String) : ActionSpec → List Finding
  | .am _ selector | .click _ selector | .find _ selector | .findTheVisible _ selector
  | .cannotFindThe _ selector => blankField "selector" selector
  | .see _ text | .canSee _ text | .shouldNotSee _ text => blankField "text" text
  | .clickTheLabel label => blankField "label" label
  | .goTo _ url => blankField "url" url
  | .reached _ url urlRegex =>
      foundIf (url.isSome && urlRegex.isSome) .bothUrls ++
        match UrlPattern.of url urlRegex with
        | .ok _ => []
        | .error fault => [.badUrl fault]
  | .fill _ selector fields autoSubmit =>
      blankField "selector" selector ++ foundIf fields.isEmpty .noFields ++
        match autoSubmit with
        | none | some (.bool _) => []
        | some value => [.oddSubmit value]
  | .seeTheValueOf _ selector expected =>
      blankField "selector" selector ++ foundIf (!expected.isText) (.oddExpectation expected)
  | .noteDown message selector property =>
      blankField "selector" selector ++ blankField "attribute" property ++
        foundIf (notes.contains message) (.notedAgain message)

end ActionSpec

/-- What there is to say about steps, the first of which has the given number, and the names noted
down behind them. -/
def stepDiagnostics (scenario : ScenarioSpec) :
    Nat → List String → List StepSpec → List Diagnostic × List String
  | _, notes, [] => ([], notes)
  | number, notes, step :: rest =>
      let location := step.location scenario number
      let here := (step.action.findings notes).map (Finding.at (some location))
      let (others, notes) :=
        stepDiagnostics scenario (number + 1) (step.action.note?.toList ++ notes) rest
      (here ++ others, notes)

/-- What there is to say about the names that a scenario depends on. -/
def dependencyFindings (all defined : List String) (dependsOn : List String) : List Finding :=
  dependsOn.flatMap fun name =>
    if defined.contains name then []
    else if all.contains name then [.definedLater name]
    else [.undefined name]

/-- What there is to say about a scenario apart from its steps. -/
def ScenarioSpec.findings (all defined : List String) (spec : ScenarioSpec) : List Finding :=
  foundIf (Text.isBlank spec.name) .scenarioNameBlank ++
    foundIf (defined.contains spec.name) (.redefined spec.name) ++
    dependencyFindings all defined spec.dependsOn ++
    foundIf spec.steps.isEmpty .noSteps

/-- What there is to say about scenarios; `defined` are the names defined before them, and `notes`
those noted down. -/
def scenarioDiagnostics (all : List String) :
    List String → List String → List ScenarioSpec → List Diagnostic
  | _, _, [] => []
  | defined, notes, spec :: rest =>
      let own := (spec.findings all defined).map (Finding.at (some spec.location))
      let (steps, notes) := stepDiagnostics spec 1 notes spec.steps
      own ++ steps ++ scenarioDiagnostics all (spec.name :: defined) notes rest

/-- Everything that there is to say about a document, in its order. -/
def Document.diagnostics (document : Document) : List Diagnostic :=
  (foundIf (Text.isBlank document.entryUrl) .entryUrlBlank).map (Finding.at none) ++
    scenarioDiagnostics (document.scenarios.map ScenarioSpec.name) [] [] document.scenarios

def Diagnostic.isError (diagnostic : Diagnostic) : Bool :=
  diagnostic.level = .error

end Rehearsal

import Rehearsal.Association
import Rehearsal.Step.Basic

/-!
Scenarios under their names, and the pipeline of steps to be run.

Defining a scenario schedules it at once, and asking for one that is defined already schedules it
again.  What has been scheduled stays as it is.
-/

namespace Rehearsal

structure Scenario where
  name : String
  /-- The banner and the steps behind it. -/
  steps : List Step
  deriving Inhabited

/-- Scenarios under their names. -/
structure Registry where
  scenarios : Association Scenario
  deriving Inhabited

namespace Registry

def empty : Registry := ⟨[]⟩

/-- Puts a scenario under its name. -/
def insert (scenario : Scenario) (registry : Registry) : Registry :=
  ⟨registry.scenarios.insert scenario.name scenario⟩

def get? (name : String) (registry : Registry) : Option Scenario :=
  registry.scenarios.get? name

def contains (name : String) (registry : Registry) : Bool :=
  registry.scenarios.contains name

def size (registry : Registry) : Nat :=
  registry.scenarios.length

def isEmpty (registry : Registry) : Bool :=
  registry.scenarios.isEmpty

end Registry

/-- A step in its place in the pipeline. -/
structure Scheduled where
  context : Context
  step : Step
  deriving Inhabited

/-- The steps of a scenario in their places. -/
def Scenario.scheduled (scenario : Scenario) : List Scheduled :=
  scenario.steps.mapIdx fun index step =>
    { context := { voice := step.voice, scenario := scenario.name, index }, step }

structure Suite where
  registry : Registry
  pipeline : List Scheduled
  trace : Array Trace.Line
  deriving Inhabited

namespace Suite

def empty : Suite :=
  { registry := .empty, pipeline := [], trace := #[] }

/-- How many steps are waiting to be run. -/
def pending (suite : Suite) : Nat :=
  suite.pipeline.length

/-- The step that is to be run next, and the suite without it. -/
def next? (suite : Suite) : Option (Scheduled × Suite) :=
  match suite.pipeline with
  | [] => none
  | item :: rest => some (item, { suite with pipeline := rest })

def redefined (name : String) : Trace.Line :=
  { severity := .debug
    message := "scenario redefined"
    fields := [("scenario", .text name)] }

def scheduledLine (name : String) (steps queued : Nat) : Trace.Line :=
  { severity := .debug
    message := "scenario scheduled"
    fields := [("scenario", .text name), ("steps", .number steps), ("queued", .number queued)] }

/-- Schedules the steps of a scenario behind all others. -/
def schedule (name : String) (scenario : Scenario) (suite : Suite) : Suite :=
  let pipeline := suite.pipeline ++ scenario.scheduled
  { suite with
    pipeline
    trace := suite.trace.push (scheduledLine name scenario.steps.length pipeline.length) }

/-- Schedules a scenario that has been defined before. -/
def dependsOn (name : String) (suite : Suite) : Except Error Suite :=
  match suite.registry.get? name with
  | some scenario => .ok (suite.schedule name scenario)
  | none => .error (.unknownScenario name)

/-- Defines a scenario, in place of an earlier one of that name, and schedules it. -/
def scenario (name : String) (steps : List Step) (suite : Suite) : Suite :=
  let defined : Scenario := { name, steps := .banner :: steps }
  let trace :=
    if suite.registry.contains name then suite.trace.push (redefined name) else suite.trace
  { suite with registry := suite.registry.insert defined, trace }.schedule name defined

end Suite

end Rehearsal

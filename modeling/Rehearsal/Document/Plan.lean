import Rehearsal.Document.Install
import Rehearsal.Evidence
import Rehearsal.Table

/-!
The dry run: what a document would have run, and the evidence that each step would leave behind.
-/

namespace Rehearsal

structure PlanRow where
  scenario : String
  index : Nat
  /-- The kind of step. -/
  kind : String
  message : String
  /-- The file that the step would leave behind; a banner leaves none. -/
  evidence : Option String
  deriving DecidableEq, Repr, Inhabited

structure Plan where
  entryUrl : String
  timeoutMs : Nat
  rows : List PlanRow
  deriving DecidableEq, Repr, Inhabited

/-- The row of a step in the pipeline. -/
def Scheduled.planRow (config : Config) (item : Scheduled) : PlanRow :=
  let row (message : String) (evidence : Option String) : PlanRow :=
    { scenario := item.context.scenario
      index := item.context.index
      kind := item.step.strategy.kind
      message
      evidence }
  match item.step.strategy with
  | .banner => row ("Scenario: " ++ item.context.scenario) none
  | _ =>
      row item.step.message
        (some (Evidence.pathFor config.captureDir item.context.scenario item.context.index
          item.step.message))

theorem Scheduled.scenario_planRow (config : Config) (item : Scheduled) :
    (item.planRow config).scenario = item.context.scenario := by
  unfold planRow
  split <;> rfl

theorem Scheduled.index_planRow (config : Config) (item : Scheduled) :
    (item.planRow config).index = item.context.index := by
  unfold planRow
  split <;> rfl

/-- The plan of a suite. -/
def Suite.plan (entryUrl : String) (config : Config) (suite : Suite) : Plan :=
  { entryUrl
    timeoutMs := config.timeoutMs
    rows := suite.pipeline.map (Scheduled.planRow config) }

def Document.plan (config : Config) (document : Document) : Except Error Plan :=
  match document.install .empty with
  | (.ok (), suite) => .ok (suite.plan document.entryUrl config)
  | (.error error, _) => .error error

namespace Plan

def header : Table.Row :=
  ["scenario", "#", "executor", "message", "evidence"]

def cells (row : PlanRow) : Table.Row :=
  [row.scenario, toString row.index, row.kind, row.message, row.evidence.getD ""]

/-- The plan as text, each line closed by a line feed. -/
def text (plan : Plan) : String :=
  s!"Entry: {plan.entryUrl}\nTimeout: {plan.timeoutMs} ms\n" ++
    (if plan.rows.isEmpty then "No steps scheduled."
      else Table.draw header (plan.rows.map cells)) ++ "\n"

end Plan

end Rehearsal

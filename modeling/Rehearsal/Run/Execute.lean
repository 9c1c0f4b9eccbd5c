import Rehearsal.Run.Wait
import Rehearsal.Step.Basic

/-!
One step, from its wait to its evidence.
-/

namespace Rehearsal

namespace World

variable {σ : Type}

/-- Does the work of a step, if it has any. -/
def perform (engine : Engine σ) (config : Config) (context : Context) (step : Step)
    (world : World σ) : Performance × World σ :=
  match step.callback with
  | some callback =>
      (callback { context, message := step.message, config }).perform engine context none world
  | none => ({ result := .ok (), reported := none }, world)

/-- Reports the failure of a step, and why it failed. -/
def fault (context : Context) (message reason : String) (world : World σ) : World σ :=
  (world.signal context false message).log .error ("Error: " ++ reason)

/-- Does the work of a step whose condition holds.  A step that has not reported for itself has
passed. -/
def proceed (engine : Engine σ) (config : Config) (context : Context) (step : Step)
    (world : World σ) : Outcome × World σ :=
  match world.perform engine config context step with
  | ({ result := .ok (), reported := some outcome }, world) => (outcome, world)
  | ({ result := .ok (), reported := none }, world) =>
      (.passed, world.signal context true step.message)
  | ({ result := .error error, .. }, world) =>
      (.failed, world.fault context step.message error.message)

/-- Does the work of a step that waits for nothing.  It reports for itself or not at all. -/
def act (engine : Engine σ) (config : Config) (context : Context) (step : Step)
    (world : World σ) : Outcome × World σ :=
  match world.perform engine config context step with
  | ({ result := .ok (), reported }, world) => (reported.getD .passed, world)
  | ({ result := .error error, .. }, world) =>
      (.failed, world.fault context step.message error.message)

/-- Waits for a condition, and goes on if it is met. -/
def waitAndProceed (engine : Engine σ) (config : Config) (context : Context) (step : Step)
    (condition : Condition) (world : World σ) : Outcome × World σ :=
  let (outcome, world) : Outcome × World σ :=
    match world.await engine config condition with
    | (.met, world) => world.proceed engine config context step
    | (.failed error, world) =>
        (.failed, world.fault context step.message error.message)
    | (.elapsed, world) =>
        (.timedOut, world.write (Ledger.timeout context.scenario context.index step.message))
  match step.info with
  | some info => (outcome, world.log .info info)
  | none => (outcome, world)

/-- Has the engine take the picture of a step. -/
def capture (engine : Engine σ) (config : Config) (context : Context) (message : String)
    (world : World σ) : World σ :=
  let evidence := Evidence.of config.captureDir context.scenario context.index message
  match world.call engine (.capture evidence.path) with
  | (.ok _, world) => world.write (Ledger.captured evidence)
  | (.error error, world) =>
      (world.write (Ledger.remark
        (.atPath .warning evidence.path ("evidence capture failed: " ++ error.message)))).log
          .warning ("Capture failed: " ++ error.message)

/-- Runs one step to its end.  A banner has no outcome. -/
def execute (engine : Engine σ) (config : Config) (context : Context) (step : Step)
    (world : World σ) : Option Outcome × World σ :=
  let world := world.write (Ledger.enter context.scenario context.index)
  match step.strategy with
  | .banner => (none, world.write (Ledger.banner context.scenario))
  | .wait condition =>
      let (outcome, world) := world.waitAndProceed engine config context step condition
      (some outcome, world.capture engine config context step.message)
  | .immediate =>
      let (outcome, world) := world.act engine config context step
      (some outcome, world.capture engine config context step.message)

end World

end Rehearsal

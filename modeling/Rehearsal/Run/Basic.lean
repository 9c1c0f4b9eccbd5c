import Rehearsal.Run.Execute
import Rehearsal.Suite

/-!
A whole run: the engine is started, the pipeline is run from its first step to its last, and the
engine is told that it is over.
-/

namespace Rehearsal

/-- Something that defines scenarios.  What it has defined before it fails remains. -/
abbrev Definition := Suite → Except Error Unit × Suite

namespace World

variable {σ : Type}

def startingLine (entryUrl : String) : Trace.Line :=
  { severity := .info, message := "starting engine", fields := [("entry_url", .text entryUrl)] }

def runningLine (suite : Suite) : Trace.Line :=
  { severity := .info
    message := "running pipeline"
    fields := [("scenarios", .number suite.registry.size), ("steps", .number suite.pending)] }

def start (engine : Engine σ) (entryUrl : String) (world : World σ) :
    Except Error Unit × World σ :=
  match (world.tell #[startingLine entryUrl]).call engine (.start entryUrl) with
  | (.ok _, world) => (.ok (), world)
  | (.error error, world) => (.error (.engine error), world)

/-- Tells the engine that the run is over.  If it complains, the trace alone shows it. -/
def shutDown (engine : Engine σ) (world : World σ) : World σ :=
  if engine.closes then
    match world.call engine .finish with
    | (.ok _, world) => world
    | (.error error, world) =>
        world.tell #[{
          severity := .warning
          message := "engine did not shut down cleanly: " ++ error.message
          fields := [] }]
  else
    world

/-- Runs steps one behind the other. -/
def runSteps (engine : Engine σ) (config : Config) : List Scheduled → World σ → World σ
  | [], world => world
  | item :: rest, world =>
      runSteps engine config rest (world.execute engine config item.context item.step).2

/-- Runs the pipeline of a suite and closes the ledger. -/
def drive (engine : Engine σ) (config : Config) (suite : Suite) (world : World σ) : World σ :=
  ((runSteps engine config suite.pipeline (world.tell #[runningLine suite])).shutDown
    engine).write Ledger.close

/-- Runs a suite.  Once the engine has started, nothing keeps the run from its end. -/
def run (engine : Engine σ) (config : Config) (entryUrl : String) (suite : Suite)
    (world : World σ) : Except Error Unit × World σ :=
  match (world.tell suite.trace).start engine entryUrl with
  | (.ok (), world) => (.ok (), world.drive engine config suite)
  | (.error error, world) => (.error error, world)

/-- Starts the engine, has the scenarios defined, and runs them.  If they cannot be defined, the
engine is told that the run is over before any step is run. -/
def runDefined (engine : Engine σ) (config : Config) (entryUrl : String) (define : Definition)
    (world : World σ) : Except Error Unit × World σ :=
  match world.start engine entryUrl with
  | (.error error, world) => (.error error, world)
  | (.ok (), world) =>
      match define .empty with
      | (.ok (), suite) => (.ok (), (world.tell suite.trace).drive engine config suite)
      | (.error error, suite) => (.error error, (world.tell suite.trace).shutDown engine)

/-- The report of a run that has come to its end. -/
def report (time : Nat → String) (world : World σ) : Report :=
  world.ledger.report time

end World

end Rehearsal

import Rehearsal.Engine.Basic
import Rehearsal.Ledger.Report
import Rehearsal.Notebook
import Rehearsal.Step.Program

/-!
Everything that a run changes, and the two things that change it: calls of the engine, and the
programs of steps.
-/

namespace Rehearsal

structure World (σ : Type) where
  state : σ
  /-- Milliseconds since the engine came into being. -/
  clock : Nat
  /-- The calls of the engine, each with the instant at which it began. -/
  calls : Array (Nat × Call)
  ledger : Ledger
  notebook : Notebook

namespace World

variable {σ : Type}

/-- A world in which nothing has happened yet. -/
def initial (state : σ) : World σ :=
  { state, clock := 0, calls := #[], ledger := .empty, notebook := .empty }

/-- Changes the ledger. -/
def write (f : Ledger → Ledger) (world : World σ) : World σ :=
  { world with ledger := f world.ledger }

/-- Adds lines to the trace. -/
def tell (lines : Array Trace.Line) (world : World σ) : World σ :=
  world.write fun ledger => { ledger with trace := ledger.trace ++ lines }

/-- A call begins. -/
def begin (engine : Engine σ) (call : Call) (world : World σ) : World σ :=
  { world with
    calls := world.calls.push (world.clock, call)
    state := engine.accept call world.state }

/-- A call that has begun takes its time and is answered. -/
def complete (engine : Engine σ) (call : Call) (world : World σ) :
    Except EngineError call.Reply × World σ :=
  let (reply, state) := engine.answer call world.state
  (reply, { world with state, clock := world.clock + engine.delay call world.state })

def call (engine : Engine σ) (call : Call) (world : World σ) :
    Except EngineError call.Reply × World σ :=
  (world.begin engine call).complete engine call

/-- Reports an outcome for the step of a context. -/
def signal (context : Context) (passed : Bool) (message : String) (world : World σ) : World σ :=
  world.write fun ledger =>
    if passed then ledger.pass context.scenario context.index message
    else ledger.fail context.scenario context.index message

def log (level : LogLevel) (text : String) (world : World σ) : World σ :=
  world.write (Ledger.log level text)

end World

/-- What comes of a program: whether it failed, and what it reported last. -/
structure Performance where
  result : Except StepError Unit
  reported : Option Outcome

namespace Program

variable {σ : Type}

/-- Carries out a program; `reported` is what has been reported so far. -/
def perform (engine : Engine σ) (context : Context) :
    Program → Option Outcome → World σ → Performance × World σ
  | .done, reported, world => ({ result := .ok (), reported }, world)
  | .fail error, reported, world => ({ result := .error error, reported }, world)
  | .signal passed message next, _, world =>
      next.perform engine context (some (if passed then .passed else .failed))
        (world.signal context passed message)
  | .log level text next, reported, world =>
      next.perform engine context reported (world.log level text)
  | .call request next, reported, world =>
      let (reply, world) := world.call engine request
      (next reply).perform engine context reported world
  | .sleep ms next, reported, world =>
      next.perform engine context reported { world with clock := world.clock + ms }
  | .note name value next, reported, world =>
      next.perform engine context reported
        { world with notebook := world.notebook.record name value }
  | .signalled next, reported, world => (next reported).perform engine context reported world

end Program

end Rehearsal

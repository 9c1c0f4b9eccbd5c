import Rehearsal.Condition
import Rehearsal.Run.World

/-!
Waiting for a condition, within a bound.

The engine is probed at once and then again and again, with a rest behind every answer.  A probe may
begin, and an answer may come, at the very instant of the deadline; whatever would come later is
dropped.
-/

namespace Rehearsal

namespace Condition

/-- The call that probes for the condition. -/
def probe : Condition → Call
  | .selector target => .selectorExists target
  | .url _ => .currentUrl
  | .text words => .textPresent words
  | .visible target => .isVisible target

/-- The condition holds by what the probe has found. -/
def holds : (condition : Condition) → condition.probe.Reply → Bool
  | .selector _, found => found
  | .url pattern, address => pattern.holds address
  | .text _, found => found
  | .visible _, found => found

/-- How long a wait for the condition may take. -/
def bound (config : Config) : Condition → Nat
  | .url _ => Config.urlTimeoutMs
  | _ => config.timeoutMs

end Condition

/-- How a wait ends. -/
inductive WaitEnd where
  | met
  | failed (error : EngineError)
  | elapsed
  deriving DecidableEq, Repr

namespace World

variable {σ : Type}

/-- Probes until the condition holds, the engine fails or the deadline has come.  The fuel is the
number of probes that there may be. -/
def poll (engine : Engine σ) (condition : Condition) (interval deadline : Nat) :
    Nat → World σ → WaitEnd × World σ
  | 0, world => (.elapsed, { world with clock := deadline })
  | fuel + 1, world =>
      let asked := world.begin engine condition.probe
      if engine.silent condition.probe asked.state ||
          deadline < asked.clock + engine.delay condition.probe asked.state then
        (.elapsed, { asked with clock := deadline })
      else
        match asked.complete engine condition.probe with
        | (.error error, world) => (.failed error, world)
        | (.ok found, world) =>
            if condition.holds found then (.met, world)
            else if deadline < world.clock + interval then
              (.elapsed, { world with clock := deadline })
            else
              poll engine condition interval deadline fuel
                { world with clock := world.clock + interval }

/-- The line that tells how long a wait has taken. -/
def metLine (condition : Condition) (elapsed : Nat) : Trace.Line :=
  { severity := .debug
    message := "condition met"
    fields := [("condition", .text condition.shown), ("elapsed_ms", .number elapsed)] }

/-- Waits for a condition.  As a rest takes a millisecond or more, no bound has room for more probes
than it has milliseconds, and one. -/
def await (engine : Engine σ) (config : Config) (condition : Condition) (world : World σ) :
    WaitEnd × World σ :=
  let bound := condition.bound config
  match world.poll engine condition config.pollIntervalMs (world.clock + bound) (bound + 1) with
  | (.met, after) =>
      (.met, after.write (Ledger.remark (metLine condition (after.clock - world.clock))))
  | other => other

end World

end Rehearsal

import Rehearsal.Config.Basic
import Rehearsal.Engine.Basic
import Rehearsal.Ledger.Event
import Rehearsal.Voice

/-!
The work of a step, as a program that can be looked at before it is carried out.
-/

namespace Rehearsal

/-- How a step came out. -/
inductive Outcome where
  | passed
  | failed
  | timedOut
  deriving DecidableEq, Repr, Inhabited

/-- Who speaks, in which scenario, and the place of the step in it; the banner has place zero. -/
structure Context where
  voice : Option Voice
  scenario : String
  index : Nat
  deriving DecidableEq, Repr, Inhabited

inductive Program where
  /-- The work is done. -/
  | done
  /-- The work has failed. -/
  | fail (error : StepError)
  /-- Reports that the step has passed, or that it has failed, and goes on. -/
  | signal (passed : Bool) (message : String) (next : Program)
  | log (level : LogLevel) (text : String) (next : Program)
  /-- Calls the engine and goes on with what it answers. -/
  | call (request : Call) (next : Except EngineError request.Reply → Program)
  | sleep (ms : Nat) (next : Program)
  /-- Notes down a value. -/
  | note (name : String) (value : Option String) (next : Program)
  /-- Goes on with what the step has reported last. -/
  | signalled (next : Option Outcome → Program)
  deriving Inhabited

namespace Program

/-- Calls the engine; if that fails, so does the work. -/
def ask (call : Call) (next : call.Reply → Program) : Program :=
  .call call fun
    | .ok reply => next reply
    | .error error => .fail (.engine error)

/-- Calls the engine and has nothing more to do. -/
def tell (call : Call) : Program :=
  ask call fun _ => .done

end Program

/-- What a program is written for: the step, its message and the settings. -/
structure Cue where
  context : Context
  message : String
  config : Config
  deriving DecidableEq, Repr, Inhabited

/-- The work that a step does once its condition holds. -/
abbrev Callback := Cue → Program

end Rehearsal

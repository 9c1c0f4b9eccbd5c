import Rehearsal.Condition
import Rehearsal.Step.Program

/-!
Steps: what is waited for, and what is done then.
-/

namespace Rehearsal

inductive Strategy where
  /-- The head of a scenario. -/
  | banner
  /-- Waits for a condition first. -/
  | wait (condition : Condition)
  | immediate
  deriving Repr, Inhabited

def Strategy.kind : Strategy → String
  | .banner => "banner"
  | .wait condition => condition.kind
  | .immediate => "no_wait"

def Strategy.condition? : Strategy → Option Condition
  | .wait condition => some condition
  | _ => none

structure Step where
  voice : Option Voice
  message : String
  strategy : Strategy
  callback : Option Callback
  /-- A line that is logged after the step has been reported. -/
  info : Option String
  deriving Inhabited

namespace Step

def banner : Step :=
  { voice := none, message := "", strategy := .banner, callback := none, info := none }

/-- Waits for a condition and does some work then. -/
def waiting (message : String) (condition : Condition) (callback : Option Callback)
    (info : Option String) : Step :=
  { voice := none, message, strategy := .wait condition, callback, info }

/-- Does some work straight away. -/
def immediate (message : String) (callback : Option Callback) : Step :=
  { voice := none, message, strategy := .immediate, callback, info := none }

def withVoice (voice : Voice) (step : Step) : Step :=
  { step with voice := some voice }

end Step

end Rehearsal

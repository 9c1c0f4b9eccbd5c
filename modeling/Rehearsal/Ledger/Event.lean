import Rehearsal.Evidence
import Rehearsal.Text.Lines
import Rehearsal.Trace

/-!
What a ledger records.
-/

namespace Rehearsal

inductive LogLevel where
  | info
  /-- The title of a scenario. -/
  | infoBar
  | warning
  | error
  deriving DecidableEq, Repr, Inhabited

namespace LogLevel

def all : List LogLevel := [.info, .infoBar, .warning, .error]

def name : LogLevel → String
  | .info => "info"
  | .infoBar => "info_bar"
  | .warning => "warning"
  | .error => "error"

def ofName? (name : String) : Option LogLevel :=
  all.find? fun level => level.name == name

def severity : LogLevel → Trace.Severity
  | .info | .infoBar => .info
  | .warning => .warning
  | .error => .error

end LogLevel

inductive Event where
  | banner (scenario : String)
  | passed (scenario : String) (index : Nat) (message : String)
  | failed (scenario : String) (index : Nat) (message : String)
  | timedOut (scenario : String) (index : Nat) (message : String)
  | log (level : LogLevel) (text : String)
  | captured (evidence : Evidence)
  | done (passed failed timedOut : Nat)
  deriving DecidableEq, Repr, Inhabited

namespace Event

def evidence? : Event → Option Evidence
  | .captured evidence => some evidence
  | _ => none

/-- The lines of a log entry; at least one, though it be empty. -/
def logLines (text : String) : List String :=
  if text.isEmpty then [""] else Text.lines text

/-- The lines of a report that speak of an event. -/
def shown : Event → List String
  | .banner _ => []
  | .passed _ _ message => ["PASS " ++ message]
  | .failed _ _ message | .timedOut _ _ message => ["FAIL " ++ message]
  | .log .infoBar text => ["# " ++ text]
  | .log _ text => logLines text
  | .captured evidence => ["  capture: " ++ evidence.path]
  | .done passes failures timeouts =>
      [s!"{passes} passed, {failures} failed, {timeouts} timed out"]

end Event

end Rehearsal

import Rehearsal.Ledger.Event

/-!
The ledger of a run: its timeline, its counts, and the step that it is at.

Every event but a banner is also told in a line of the trace.
-/

namespace Rehearsal

structure Ledger where
  events : Array Event
  passed : Nat
  failed : Nat
  timedOut : Nat
  /-- Scenario and index of the step whose log lines are being written. -/
  position : String × Nat
  trace : Array Trace.Line
  deriving Repr, Inhabited

namespace Ledger

def empty : Ledger :=
  { events := #[], passed := 0, failed := 0, timedOut := 0, position := ("", 0), trace := #[] }

/-- The line that tells an event, at a position. -/
def echo (position : String × Nat) : Event → Option Trace.Line
  | .banner _ => none
  | .passed scenario index message => some (.atStep .info scenario index ("PASS " ++ message))
  | .failed scenario index message | .timedOut scenario index message =>
      some (.atStep .warning scenario index ("FAIL " ++ message))
  | .log level text => some (.atStep level.severity position.1 position.2 text)
  | .captured evidence => some (.atPath .info evidence.path "captured")
  | .done passes failures timeouts =>
      some {
        severity := .info
        message := "run complete"
        fields := [("passed", .number passes), ("failed", .number failures),
          ("timed_out", .number timeouts)] }

/-- Adds a line to the trace alone. -/
def remark (line : Trace.Line) (ledger : Ledger) : Ledger :=
  { ledger with trace := ledger.trace.push line }

/-- Adds an event to the timeline. -/
def push (event : Event) (ledger : Ledger) : Ledger :=
  match echo ledger.position event with
  | some line => { ledger with events := ledger.events.push event, trace := ledger.trace.push line }
  | none => { ledger with events := ledger.events.push event }

/-- From here on log lines belong to another step. -/
def enter (scenario : String) (index : Nat) (ledger : Ledger) : Ledger :=
  { ledger with position := (scenario, index) }

def log (level : LogLevel) (text : String) (ledger : Ledger) : Ledger :=
  ledger.push (.log level text)

/-- The head of a scenario: a blank line and its title. -/
def banner (scenario : String) (ledger : Ledger) : Ledger :=
  ((ledger.log .info "").log .infoBar ("Scenario: " ++ scenario)).push (.banner scenario)

def pass (scenario : String) (index : Nat) (message : String) (ledger : Ledger) : Ledger :=
  { ledger with passed := ledger.passed + 1 }.push (.passed scenario index message)

def fail (scenario : String) (index : Nat) (message : String) (ledger : Ledger) : Ledger :=
  { ledger with failed := ledger.failed + 1 }.push (.failed scenario index message)

/-- A timeout is counted apart from failures, and a warning follows it. -/
def timeout (scenario : String) (index : Nat) (message : String) (ledger : Ledger) : Ledger :=
  ({ ledger with timedOut := ledger.timedOut + 1 }.push
    (.timedOut scenario index message)).log .warning "Timeout"

def captured (evidence : Evidence) (ledger : Ledger) : Ledger :=
  ledger.push (.captured evidence)

/-- The last event of a timeline: the counts. -/
def close (ledger : Ledger) : Ledger :=
  ledger.push (.done ledger.passed ledger.failed ledger.timedOut)

end Ledger

end Rehearsal

import Rehearsal.Ledger.Basic

/-!
What a finished run leaves behind.
-/

namespace Rehearsal

/-- An event with the time of day at which it was recorded. -/
structure Entry where
  time : String
  event : Event
  deriving DecidableEq, Repr, Inhabited

structure Report where
  passed : Nat
  failed : Nat
  timedOut : Nat
  entries : List Entry
  deriving DecidableEq, Repr, Inhabited

namespace Report

def events (report : Report) : List Event :=
  report.entries.map Entry.event

def hasFailures (report : Report) : Bool :=
  report.failed > 0 || report.timedOut > 0

/-- The evidence that was captured, in order. -/
def evidence (report : Report) : List Evidence :=
  report.events.filterMap Event.evidence?

/-- The report as text, each line closed by a line feed. -/
def text (report : Report) : String :=
  String.join ((report.events.flatMap Event.shown).map (· ++ "\n"))

end Report

/-- The report of a ledger as it stands.  `time n` is the time of day of its event number `n`. -/
def Ledger.report (time : Nat → String) (ledger : Ledger) : Report :=
  { passed := ledger.passed
    failed := ledger.failed
    timedOut := ledger.timedOut
    entries := ledger.events.toList.mapIdx fun n event => { time := time n, event } }

/-- The report of a ledger once it has been closed. -/
def Ledger.finish (time : Nat → String) (ledger : Ledger) : Report :=
  ledger.close.report time

end Rehearsal

import Rehearsal.Ledger.Report

/-!
A ledger as what has been recorded in it.

Whatever is said to a ledger comes down to events that are counted and put behind the others, one
by one; to lines of the trace; and to the step that it is at.
-/

namespace Rehearsal

/-- The event is the banner of a scenario. -/
def Event.isBanner : Event → Bool
  | .banner _ => true
  | _ => false

namespace Ledger

/-- Counts an event, if it is one of those that are counted. -/
def count (event : Event) (ledger : Ledger) : Ledger :=
  match event with
  | .passed .. => { ledger with passed := ledger.passed + 1 }
  | .failed .. => { ledger with failed := ledger.failed + 1 }
  | .timedOut .. => { ledger with timedOut := ledger.timedOut + 1 }
  | _ => ledger

/-- Counts an event and puts it at the end of the timeline. -/
def record (event : Event) (ledger : Ledger) : Ledger :=
  (ledger.count event).push event

@[simp]
theorem events_push (event : Event) (ledger : Ledger) :
    (ledger.push event).events = ledger.events.push event := by
  unfold push
  split <;> rfl

@[simp]
theorem events_count (event : Event) (ledger : Ledger) :
    (ledger.count event).events = ledger.events := by
  cases event <;> rfl

@[simp]
theorem events_record (event : Event) (ledger : Ledger) :
    (ledger.record event).events = ledger.events.push event := by
  rw [record, events_push, events_count]

@[simp]
theorem events_remark (line : Trace.Line) (ledger : Ledger) :
    (ledger.remark line).events = ledger.events := rfl

@[simp]
theorem events_enter (scenario : String) (index : Nat) (ledger : Ledger) :
    (ledger.enter scenario index).events = ledger.events := rfl

theorem log_eq_record (level : LogLevel) (text : String) (ledger : Ledger) :
    ledger.log level text = ledger.record (.log level text) := rfl

theorem pass_eq_record (scenario : String) (index : Nat) (message : String) (ledger : Ledger) :
    ledger.pass scenario index message = ledger.record (.passed scenario index message) := rfl

theorem fail_eq_record (scenario : String) (index : Nat) (message : String) (ledger : Ledger) :
    ledger.fail scenario index message = ledger.record (.failed scenario index message) := rfl

theorem timeout_eq_record (scenario : String) (index : Nat) (message : String)
    (ledger : Ledger) :
    ledger.timeout scenario index message =
      (ledger.record (.timedOut scenario index message)).record (.log .warning "Timeout") := rfl

theorem banner_eq_record (scenario : String) (ledger : Ledger) :
    ledger.banner scenario =
      ((ledger.record (.log .info "")).record (.log .infoBar ("Scenario: " ++ scenario))).record
        (.banner scenario) := rfl

theorem captured_eq_record (evidence : Evidence) (ledger : Ledger) :
    ledger.captured evidence = ledger.record (.captured evidence) := rfl

theorem close_eq_record (ledger : Ledger) :
    ledger.close = ledger.record (.done ledger.passed ledger.failed ledger.timedOut) := rfl

@[simp]
theorem events_report (time : Nat → String) (ledger : Ledger) :
    (ledger.report time).events = ledger.events.toList := by
  apply List.ext_getElem?
  intro n
  cases found : ledger.events.toList[n]? <;> simp_all [report, Report.events]

end Ledger

end Rehearsal

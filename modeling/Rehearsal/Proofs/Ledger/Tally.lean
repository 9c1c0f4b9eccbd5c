import Mathlib.Data.List.Induction
import Rehearsal.Proofs.Ledger.Record
import Rehearsal.Step.Program

/-!
What a ledger counts, and what it tells.

A ledger keeps its counts beside its timeline, and a timeout puts two events there at once.
Whatever is done to a ledger, and in whatever order, the counts go on agreeing with the timeline,
and the report that is made of both says one thing.
-/

namespace Rehearsal

namespace Event

/-- The event tells that a step has come to this outcome. -/
def tells : Outcome → Event → Bool
  | .passed, .passed .. | .failed, .failed .. | .timedOut, .timedOut .. => true
  | _, _ => false

/-- Behind every timeout in the timeline there is its warning. -/
def Warned (events : List Event) : Prop :=
  ∀ n scenario index message, events[n]? = some (.timedOut scenario index message) →
    events[n + 1]? = some (.log .warning "Timeout")

theorem warned_of_forall {events : List Event}
    (timeless : ∀ event ∈ events, event.tells .timedOut = false) : Warned events := by
  intro n scenario index message found
  have tells := timeless _ (List.mem_of_getElem? found)
  cases tells

theorem warned_timeout (scenario : String) (index : Nat) (message : String) :
    Warned [.timedOut scenario index message, .log .warning "Timeout"] := by
  intro n _ _ _ found
  match n with
  | 0 => rfl
  | 1 => simp at found
  | n + 2 => simp at found

theorem Warned.append {front back : List Event} (first : Warned front) (second : Warned back) :
    Warned (front ++ back) := by
  intro n scenario index message found
  by_cases inside : n < front.length
  · rw [List.getElem?_append_left inside] at found
    have warning := first n scenario index message found
    have within : n + 1 < front.length := (List.getElem?_eq_some_iff.mp warning).1
    rw [List.getElem?_append_left within]
    exact warning
  · have behind : front.length ≤ n := Nat.le_of_not_lt inside
    rw [List.getElem?_append_right behind] at found
    rw [List.getElem?_append_right (Nat.le_succ_of_le behind), Nat.succ_sub behind]
    exact second _ scenario index message found

end Event

namespace Ledger

/-- How many steps have come to an outcome. -/
def tally : Outcome → Ledger → Nat
  | .passed, ledger => ledger.passed
  | .failed, ledger => ledger.failed
  | .timedOut, ledger => ledger.timedOut

/-- What has been counted is what the timeline tells. -/
def Balanced (ledger : Ledger) : Prop :=
  ∀ outcome, ledger.tally outcome = ledger.events.toList.countP (Event.tells outcome)

theorem empty_balanced : empty.Balanced := by
  intro outcome
  cases outcome <;> rfl

@[simp]
theorem tally_push (outcome : Outcome) (event : Event) (ledger : Ledger) :
    (ledger.push event).tally outcome = ledger.tally outcome := by
  unfold push
  split <;> cases outcome <;> rfl

theorem tally_count (outcome : Outcome) (event : Event) (ledger : Ledger) :
    (ledger.count event).tally outcome =
      ledger.tally outcome + if event.tells outcome then 1 else 0 := by
  cases event <;> cases outcome <;> rfl

theorem Balanced.record {ledger : Ledger} (balanced : ledger.Balanced) (event : Event) :
    (ledger.record event).Balanced := by
  intro outcome
  rw [events_record, Array.toList_push, List.countP_append, List.countP_singleton,
    Ledger.record, tally_push, tally_count, balanced outcome]

theorem Balanced.enter {ledger : Ledger} (balanced : ledger.Balanced) (scenario : String)
    (index : Nat) : (ledger.enter scenario index).Balanced := by
  intro outcome
  cases outcome with
  | passed => exact balanced .passed
  | failed => exact balanced .failed
  | timedOut => exact balanced .timedOut

/-- What can be done to a ledger. -/
inductive Operation where
  | enter (scenario : String) (index : Nat)
  | banner (scenario : String)
  | pass (scenario : String) (index : Nat) (message : String)
  | fail (scenario : String) (index : Nat) (message : String)
  | timeout (scenario : String) (index : Nat) (message : String)
  | log (level : LogLevel) (text : String)
  | captured (evidence : Evidence)
  deriving DecidableEq, Repr, Inhabited

namespace Operation

def perform : Operation → Ledger → Ledger
  | .enter scenario index => Ledger.enter scenario index
  | .banner scenario => Ledger.banner scenario
  | .pass scenario index message => Ledger.pass scenario index message
  | .fail scenario index message => Ledger.fail scenario index message
  | .timeout scenario index message => Ledger.timeout scenario index message
  | .log level text => Ledger.log level text
  | .captured evidence => Ledger.captured evidence

/-- The events that an operation puts at the end of the timeline. -/
def events : Operation → List Event
  | .enter _ _ => []
  | .banner scenario =>
      [.log .info "", .log .infoBar ("Scenario: " ++ scenario), .banner scenario]
  | .pass scenario index message => [.passed scenario index message]
  | .fail scenario index message => [.failed scenario index message]
  | .timeout scenario index message =>
      [.timedOut scenario index message, .log .warning "Timeout"]
  | .log level text => [.log level text]
  | .captured evidence => [.captured evidence]

def evidence? : Operation → Option Evidence
  | .captured evidence => some evidence
  | _ => none

theorem events_perform (operation : Operation) (ledger : Ledger) :
    (operation.perform ledger).events.toList = ledger.events.toList ++ operation.events := by
  cases operation with
  | enter | pass | fail | log | captured =>
      simp [perform, events, pass_eq_record, fail_eq_record, log_eq_record, captured_eq_record]
  | banner scenario => simp [perform, events, banner_eq_record]
  | timeout scenario index message => simp [perform, events, timeout_eq_record]

theorem perform_balanced (operation : Operation) {ledger : Ledger} (balanced : ledger.Balanced) :
    (operation.perform ledger).Balanced := by
  cases operation with
  | enter scenario index => exact balanced.enter scenario index
  | pass | fail | log | captured => exact balanced.record _
  | banner => exact ((balanced.record _).record _).record _
  | timeout =>
      rw [perform, timeout_eq_record]
      exact (balanced.record _).record _

theorem events_warned (operation : Operation) : Event.Warned operation.events := by
  cases operation with
  | timeout scenario index message => exact Event.warned_timeout scenario index message
  | enter | banner | pass | fail | log | captured =>
      apply Event.warned_of_forall
      simp [events, Event.tells]

theorem done_not_mem_events (operation : Operation) (passes failures timeouts : Nat) :
    .done passes failures timeouts ∉ operation.events := by
  cases operation <;> simp [events]

theorem evidence_events (operation : Operation) :
    operation.events.filterMap Event.evidence? = operation.evidence?.toList := by
  cases operation <;> rfl

end Operation

/-- The ledger behind operations on an empty one. -/
def behind (operations : List Operation) : Ledger :=
  operations.foldl (fun ledger operation => operation.perform ledger) empty

theorem behind_append_singleton (operations : List Operation) (operation : Operation) :
    behind (operations ++ [operation]) = operation.perform (behind operations) := by
  simp [behind]

theorem events_behind (operations : List Operation) :
    (behind operations).events.toList = operations.flatMap Operation.events := by
  induction operations using List.reverseRecOn with
  | nil => rfl
  | append_singleton operations operation inductionHypothesis =>
      rw [behind_append_singleton, Operation.events_perform, inductionHypothesis,
        List.flatMap_append, List.flatMap_singleton]

theorem behind_balanced (operations : List Operation) : (behind operations).Balanced := by
  induction operations using List.reverseRecOn with
  | nil => exact empty_balanced
  | append_singleton operations operation inductionHypothesis =>
      rw [behind_append_singleton]
      exact operation.perform_balanced inductionHypothesis

theorem flatMap_events_warned (operations : List Operation) :
    Event.Warned (operations.flatMap Operation.events) := by
  induction operations with
  | nil =>
      apply Event.warned_of_forall
      simp
  | cons operation rest inductionHypothesis =>
      rw [List.flatMap_cons]
      exact operation.events_warned.append inductionHypothesis

theorem evidence_flatMap_events (operations : List Operation) :
    (operations.flatMap Operation.events).filterMap Event.evidence? =
      operations.filterMap Operation.evidence? := by
  induction operations with
  | nil => rfl
  | cons operation rest inductionHypothesis =>
      rw [List.flatMap_cons, List.filterMap_append, inductionHypothesis,
        Operation.evidence_events, List.filterMap_cons]
      cases operation.evidence? <;> rfl

/-- What is told later stands behind what has been told, with the times at which that was. -/
theorem entries_prefix {ledger later : Ledger} {events : List Event} (time : Nat → String)
    (grown : later.events.toList = ledger.events.toList ++ events) :
    (ledger.report time).entries <+: (later.report time).entries := by
  rw [report, report, grown, List.mapIdx_append]
  exact List.prefix_append _ _

end Ledger

namespace Report

/-- How many steps have come to an outcome. -/
def tally : Outcome → Report → Nat
  | .passed, report => report.passed
  | .failed, report => report.failed
  | .timedOut, report => report.timedOut

/-- A report is all of a piece: what it counts and what it lists is what its timeline tells. -/
structure Coherent (report : Report) : Prop where
  tallied : ∀ outcome, report.tally outcome = report.events.countP (Event.tells outcome)
  /-- The timeline ends with the counts, which are told nowhere else. -/
  done : ∃ before,
    report.events = before ++ [.done report.passed report.failed report.timedOut] ∧
    ∀ passes failures timeouts, .done passes failures timeouts ∉ before
  failures : report.hasFailures = true ↔
    ∃ event ∈ report.events, event.tells .failed = true ∨ event.tells .timedOut = true
  warned : Event.Warned report.events

end Report

namespace Ledger

theorem hasFailures_iff_of_tallied {report : Report}
    (tallied : ∀ outcome, report.tally outcome = report.events.countP (Event.tells outcome)) :
    report.hasFailures = true ↔
      ∃ event ∈ report.events, event.tells .failed = true ∨ event.tells .timedOut = true := by
  have failed : 0 < report.failed ↔ ∃ event ∈ report.events, event.tells .failed = true := by
    have counted : report.failed = _ := tallied .failed
    rw [counted, List.countP_pos_iff]
  have timedOut : 0 < report.timedOut ↔
      ∃ event ∈ report.events, event.tells .timedOut = true := by
    have counted : report.timedOut = _ := tallied .timedOut
    rw [counted, List.countP_pos_iff]
  rw [Report.hasFailures, Bool.or_eq_true, decide_eq_true_eq, decide_eq_true_eq, gt_iff_lt,
    gt_iff_lt, failed, timedOut]
  constructor
  · rintro (⟨event, membership, tells⟩ | ⟨event, membership, tells⟩)
    · exact ⟨event, membership, .inl tells⟩
    · exact ⟨event, membership, .inr tells⟩
  · rintro ⟨event, membership, tells | tells⟩
    · exact .inl ⟨event, membership, tells⟩
    · exact .inr ⟨event, membership, tells⟩

/-- Whatever is done to a ledger, and in whatever order, its timeline only grows at its end, and the
report of it is all of a piece: it tells what has been done, counts what it tells, and lists the
evidence in the order in which it was captured. -/
theorem behind_tallies (operations : List Operation) (time : Nat → String) :
    (∀ later,
      ((behind operations).report time).entries <+:
        ((behind (operations ++ later)).report time).entries) ∧
    ((behind operations).report time).entries <+: ((behind operations).finish time).entries ∧
    ((behind operations).finish time).events =
      operations.flatMap Operation.events ++
        [.done (behind operations).passed (behind operations).failed
          (behind operations).timedOut] ∧
    ((behind operations).finish time).evidence = operations.filterMap Operation.evidence? ∧
    ((behind operations).finish time).Coherent := by
  have closed : (behind operations).close.events.toList =
      operations.flatMap Operation.events ++
        [.done (behind operations).passed (behind operations).failed
          (behind operations).timedOut] := by
    rw [close_eq_record, events_record, Array.toList_push, events_behind]
  have events : ((behind operations).finish time).events = _ :=
    (events_report time _).trans closed
  have tallied : ∀ outcome, ((behind operations).finish time).tally outcome =
      ((behind operations).finish time).events.countP (Event.tells outcome) := by
    intro outcome
    rw [events, ← closed]
    have balanced := (behind_balanced operations).record
      (.done (behind operations).passed (behind operations).failed (behind operations).timedOut)
    rw [← close_eq_record] at balanced
    rw [← balanced outcome]
    cases outcome <;> rfl
  refine ⟨?_, ?_, events, ?_, tallied, ?_, hasFailures_iff_of_tallied tallied, ?_⟩
  · intro later
    apply entries_prefix
    rw [events_behind, events_behind, List.flatMap_append]
  · apply entries_prefix
    rw [closed, events_behind]
  · rw [Report.evidence, events, List.filterMap_append, evidence_flatMap_events]
    simp [Event.evidence?]
  · refine ⟨_, events, ?_⟩
    intro passes failures timeouts membership
    obtain ⟨operation, _, told⟩ := List.mem_flatMap.mp membership
    exact operation.done_not_mem_events passes failures timeouts told
  · rw [events]
    apply (flatMap_events_warned operations).append
    apply Event.warned_of_forall
    simp [Event.tells]

/-- A step that is reported twice is counted twice. -/
example :
    let report := (behind [
      .enter "Login" 1, .pass "Login" 1 "Given a", .fail "Login" 1 "Given a",
      .timeout "Login" 2 "When b"]).finish fun _ => "12:00:00"
    (report.passed, report.failed, report.timedOut, report.events.length) = (1, 1, 1, 5) := rfl

end Ledger

end Rehearsal

import Rehearsal.Proofs.Ledger.Record
import Rehearsal.Proofs.Notebook.Record
import Rehearsal.Run.World

/-!
The history of a run: what comes to pass in it, one thing behind the other.

A world undergoes an occurrence if it is one that the engine, as it stands, can bring about; whole
histories are chained out of such steps.  What a history has done to the calls, the timeline and
the notebook of a world can then be read off the history.
-/

namespace Rehearsal

/-- The outcome that an event tells, with the scenario and the index of the step that it is
about. -/
def Event.signal? : Event → Option (Outcome × String × Nat)
  | .passed scenario index _ => some (.passed, scenario, index)
  | .failed scenario index _ => some (.failed, scenario, index)
  | .timedOut scenario index _ => some (.timedOut, scenario, index)
  | _ => none

/-- One thing that comes to pass in a run. -/
inductive Occurrence where
  /-- The engine has answered a call, after so many milliseconds. -/
  | answered (call : Call) (ms : Nat) (reply : Except EngineError call.Reply)
  /-- A wait has run out, after so many milliseconds, over a call without an answer. -/
  | dropped (call : Call) (ms : Nat)
  | rested (ms : Nat)
  | entered (scenario : String) (index : Nat)
  | recorded (event : Event)
  | remarked (line : Trace.Line)
  | noted (name : String) (value : Option String)

namespace Occurrence

def call? : Occurrence → Option Call
  | .answered call _ _ | .dropped call _ => some call
  | _ => none

def event? : Occurrence → Option Event
  | .recorded event => some event
  | _ => none

def note? : Occurrence → Option (String × Option String)
  | .noted name value => some (name, value)
  | _ => none

def signal? (occurrence : Occurrence) : Option (Outcome × String × Nat) :=
  occurrence.event?.bind Event.signal?

/-- What it makes of a ledger. -/
def write : Occurrence → Ledger → Ledger
  | .entered scenario index => Ledger.enter scenario index
  | .recorded event => Ledger.record event
  | .remarked line => Ledger.remark line
  | _ => id

@[simp]
theorem call?_answered (call : Call) (ms : Nat) (reply : Except EngineError call.Reply) :
    (answered call ms reply).call? = some call := rfl

@[simp]
theorem call?_dropped (call : Call) (ms : Nat) :
    (dropped call ms).call? = some call := rfl

@[simp]
theorem call?_rested (ms : Nat) :
    (rested ms).call? = none := rfl

@[simp]
theorem call?_entered (scenario : String) (index : Nat) :
    (entered scenario index).call? = none := rfl

@[simp]
theorem call?_recorded (event : Event) :
    (recorded event).call? = none := rfl

@[simp]
theorem call?_remarked (line : Trace.Line) :
    (remarked line).call? = none := rfl

@[simp]
theorem call?_noted (name : String) (value : Option String) :
    (noted name value).call? = none := rfl

@[simp]
theorem event?_answered (call : Call) (ms : Nat) (reply : Except EngineError call.Reply) :
    (answered call ms reply).event? = none := rfl

@[simp]
theorem event?_dropped (call : Call) (ms : Nat) :
    (dropped call ms).event? = none := rfl

@[simp]
theorem event?_rested (ms : Nat) :
    (rested ms).event? = none := rfl

@[simp]
theorem event?_entered (scenario : String) (index : Nat) :
    (entered scenario index).event? = none := rfl

@[simp]
theorem event?_recorded (event : Event) :
    (recorded event).event? = some event := rfl

@[simp]
theorem event?_remarked (line : Trace.Line) :
    (remarked line).event? = none := rfl

@[simp]
theorem event?_noted (name : String) (value : Option String) :
    (noted name value).event? = none := rfl

@[simp]
theorem note?_answered (call : Call) (ms : Nat) (reply : Except EngineError call.Reply) :
    (answered call ms reply).note? = none := rfl

@[simp]
theorem note?_dropped (call : Call) (ms : Nat) :
    (dropped call ms).note? = none := rfl

@[simp]
theorem note?_rested (ms : Nat) :
    (rested ms).note? = none := rfl

@[simp]
theorem note?_entered (scenario : String) (index : Nat) :
    (entered scenario index).note? = none := rfl

@[simp]
theorem note?_recorded (event : Event) :
    (recorded event).note? = none := rfl

@[simp]
theorem note?_remarked (line : Trace.Line) :
    (remarked line).note? = none := rfl

@[simp]
theorem note?_noted (name : String) (value : Option String) :
    (noted name value).note? = some (name, value) := rfl

@[simp]
theorem signal?_answered (call : Call) (ms : Nat) (reply : Except EngineError call.Reply) :
    (answered call ms reply).signal? = none := rfl

@[simp]
theorem signal?_dropped (call : Call) (ms : Nat) :
    (dropped call ms).signal? = none := rfl

@[simp]
theorem signal?_rested (ms : Nat) :
    (rested ms).signal? = none := rfl

@[simp]
theorem signal?_entered (scenario : String) (index : Nat) :
    (entered scenario index).signal? = none := rfl

@[simp]
theorem signal?_recorded (event : Event) :
    (recorded event).signal? = event.signal? := rfl

@[simp]
theorem signal?_remarked (line : Trace.Line) :
    (remarked line).signal? = none := rfl

@[simp]
theorem signal?_noted (name : String) (value : Option String) :
    (noted name value).signal? = none := rfl

end Occurrence

namespace Ledger

/-- A ledger behind a whole history. -/
def writeAll (history : List Occurrence) (ledger : Ledger) : Ledger :=
  history.foldl (fun ledger occurrence => occurrence.write ledger) ledger

@[simp]
theorem writeAll_nil (ledger : Ledger) : ledger.writeAll [] = ledger := rfl

@[simp]
theorem writeAll_cons (occurrence : Occurrence) (history : List Occurrence) (ledger : Ledger) :
    ledger.writeAll (occurrence :: history) = (occurrence.write ledger).writeAll history := rfl

@[simp]
theorem writeAll_append (front back : List Occurrence) (ledger : Ledger) :
    ledger.writeAll (front ++ back) = (ledger.writeAll front).writeAll back :=
  List.foldl_append

end Ledger

theorem filterMap_signal? (history : List Occurrence) :
    history.filterMap Occurrence.signal? =
      (history.filterMap Occurrence.event?).filterMap Event.signal? := by
  rw [List.filterMap_filterMap]
  rfl

namespace World

variable {σ : Type}

/-- What one occurrence makes of a world. -/
inductive Undergoes (engine : Engine σ) : World σ → Occurrence → World σ → Prop where
  | answered (world : World σ) (call : Call) :
      Undergoes engine world
        (.answered call (engine.delay call (engine.accept call world.state))
          (world.call engine call).1)
        (world.call engine call).2
  /-- A call is dropped only while the engine has not answered it. -/
  | dropped (world : World σ) (call : Call) (ms : Nat) :
      engine.silent call (engine.accept call world.state) = true ∨
        ms < engine.delay call (engine.accept call world.state) →
      Undergoes engine world (.dropped call ms)
        { world.begin engine call with clock := world.clock + ms }
  | rested (world : World σ) (ms : Nat) :
      Undergoes engine world (.rested ms) { world with clock := world.clock + ms }
  | entered (world : World σ) (scenario : String) (index : Nat) :
      Undergoes engine world (.entered scenario index)
        (world.write (Ledger.enter scenario index))
  | recorded (world : World σ) (event : Event) :
      Undergoes engine world (.recorded event) (world.write (Ledger.record event))
  | remarked (world : World σ) (line : Trace.Line) :
      Undergoes engine world (.remarked line) (world.write (Ledger.remark line))
  | noted (world : World σ) (name : String) (value : Option String) :
      Undergoes engine world (.noted name value)
        { world with notebook := world.notebook.record name value }

/-- A world comes, through a whole history, to be another one. -/
inductive Unfolds (engine : Engine σ) : World σ → List Occurrence → World σ → Prop where
  | done (world : World σ) : Unfolds engine world [] world
  | step {world next after : World σ} {occurrence : Occurrence} {history : List Occurrence} :
      world.Undergoes engine occurrence next → Unfolds engine next history after →
      Unfolds engine world (occurrence :: history) after

variable {engine : Engine σ} {world next middle after : World σ}

theorem undergoes_write {write : Ledger → Ledger} {event : Event}
    (records : ∀ ledger, write ledger = ledger.record event) (world : World σ) :
    world.Undergoes engine (.recorded event) (world.write write) := by
  obtain rfl : write = Ledger.record event := funext records
  exact .recorded world event

theorem Undergoes.unfolds {occurrence : Occurrence}
    (undergone : world.Undergoes engine occurrence after) :
    world.Unfolds engine [occurrence] after :=
  .step undergone (.done after)

theorem Unfolds.append {first second : List Occurrence}
    (front : world.Unfolds engine first middle) (back : middle.Unfolds engine second after) :
    world.Unfolds engine (first ++ second) after := by
  induction front with
  | done world => exact back
  | step undergone _ inductionHypothesis =>
      exact .step undergone (inductionHypothesis back)

theorem Unfolds.split {first second : List Occurrence}
    (unfolds : world.Unfolds engine (first ++ second) after) :
    ∃ middle, world.Unfolds engine first middle ∧ middle.Unfolds engine second after := by
  induction first generalizing world with
  | nil => exact ⟨world, .done world, unfolds⟩
  | cons occurrence first inductionHypothesis =>
      cases unfolds with
      | step undergone gone =>
          obtain ⟨middle, front, back⟩ := inductionHypothesis gone
          exact ⟨middle, .step undergone front, back⟩

theorem call_unfolds (engine : Engine σ) (call : Call) (world : World σ) :
    world.Unfolds engine
      [.answered call (engine.delay call (engine.accept call world.state))
        (world.call engine call).1]
      (world.call engine call).2 :=
  (Undergoes.answered world call).unfolds

theorem Undergoes.calls {occurrence : Occurrence}
    (undergone : world.Undergoes engine occurrence after) :
    after.calls.toList.map Prod.snd =
      world.calls.toList.map Prod.snd ++ occurrence.call?.toList := by
  cases undergone with
  | answered call => simp [World.call, complete, begin]
  | dropped call ms unanswered => simp [begin]
  | rested | entered | recorded | remarked | noted => simp [write]

theorem Undergoes.events {occurrence : Occurrence}
    (undergone : world.Undergoes engine occurrence after) :
    after.ledger.events.toList =
      world.ledger.events.toList ++ occurrence.event?.toList := by
  cases undergone with
  | answered call => simp [World.call, complete, begin]
  | dropped call ms unanswered => simp [begin]
  | rested | entered | recorded | remarked | noted => simp [write]

theorem Undergoes.ledger {occurrence : Occurrence}
    (undergone : world.Undergoes engine occurrence after) :
    after.ledger = occurrence.write world.ledger := by
  cases undergone with
  | answered | dropped | rested | entered | recorded | remarked | noted => rfl

theorem Undergoes.notebook {occurrence : Occurrence}
    (undergone : world.Undergoes engine occurrence after) :
    after.notebook = world.notebook.recordAll occurrence.note?.toList := by
  cases undergone with
  | answered | dropped | rested | entered | recorded | remarked | noted => rfl

/-- If each occurrence adds its part to what a world has gathered, a history adds all of its
parts. -/
theorem Unfolds.gathers {α : Type} {gathered : World σ → List α} {part? : Occurrence → Option α}
    (adds : ∀ {world after : World σ} {occurrence : Occurrence},
      world.Undergoes engine occurrence after →
      gathered after = gathered world ++ (part? occurrence).toList)
    {history : List Occurrence} (unfolds : world.Unfolds engine history after) :
    gathered after = gathered world ++ history.filterMap part? := by
  induction unfolds with
  | done world => simp
  | @step world next after occurrence history undergone _ inductionHypothesis =>
      rw [inductionHypothesis, adds undergone]
      cases found : part? occurrence <;> simp [found]

/-- The calls of a history are those that it adds to the calls. -/
theorem Unfolds.calls {history : List Occurrence} (unfolds : world.Unfolds engine history after) :
    after.calls.toList.map Prod.snd =
      world.calls.toList.map Prod.snd ++ history.filterMap Occurrence.call? :=
  unfolds.gathers Undergoes.calls

/-- The events of a history are those that it adds to the timeline. -/
theorem Unfolds.events {history : List Occurrence} (unfolds : world.Unfolds engine history after) :
    after.ledger.events.toList =
      world.ledger.events.toList ++ history.filterMap Occurrence.event? :=
  unfolds.gathers Undergoes.events

theorem Unfolds.ledger {history : List Occurrence} (unfolds : world.Unfolds engine history after) :
    after.ledger = world.ledger.writeAll history := by
  induction unfolds with
  | done world => rfl
  | step undergone _ inductionHypothesis =>
      rw [inductionHypothesis, undergone.ledger]
      rfl

/-- The notes of a history are those that it adds to the notebook. -/
theorem Unfolds.notebook {history : List Occurrence}
    (unfolds : world.Unfolds engine history after) :
    after.notebook = world.notebook.recordAll (history.filterMap Occurrence.note?) := by
  induction unfolds with
  | done world => rfl
  | @step world next after occurrence history undergone _ inductionHypothesis =>
      rw [inductionHypothesis, undergone.notebook, ← Notebook.recordAll_append]
      cases found : occurrence.note? <;> simp [found]

theorem unfolds_tell (engine : Engine σ) (lines : Array Trace.Line) (world : World σ) :
    world.Unfolds engine (lines.toList.map .remarked) (world.tell lines) := by
  obtain ⟨lines⟩ := lines
  induction lines generalizing world with
  | nil =>
      simp only [List.map_nil, tell, write, Array.append_empty]
      exact .done world
  | cons line rest inductionHypothesis =>
      refine .step (.remarked world line) ?_
      have told : world.tell ⟨line :: rest⟩ = (world.write (Ledger.remark line)).tell ⟨rest⟩ := by
        simp only [tell, write, Ledger.remark]
        congr 2
        apply Array.toList_inj.mp
        simp
      rw [told]
      exact inductionHypothesis (world.write (Ledger.remark line))

theorem events_map_remarked (lines : List Trace.Line) :
    (lines.map Occurrence.remarked).filterMap Occurrence.event? = [] := by
  simp

theorem calls_map_remarked (lines : List Trace.Line) :
    (lines.map Occurrence.remarked).filterMap Occurrence.call? = [] := by
  simp

theorem notes_map_remarked (lines : List Trace.Line) :
    (lines.map Occurrence.remarked).filterMap Occurrence.note? = [] := by
  simp

end World

end Rehearsal

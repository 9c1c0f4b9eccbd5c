import Rehearsal.Proofs.Run.Bracket
import Rehearsal.Proofs.Suite.Steps

/-!
Runs whose engines differ in nothing but their pictures.

Whether a picture can be taken is told in the timeline, in the place of the picture, and makes no
other difference: not to what is asked of the engine, nor when, nor to the outcome of any step.
-/

namespace Rehearsal

variable {σ τ : Type}

/-- A call for anything but a picture. -/
def Call.Unpictured (call : Call) : Prop :=
  ∀ path, call ≠ .capture path

theorem Call.Ordinary.unpictured {call : Call} (ordinary : call.Ordinary) : call.Unpictured := by
  rintro path rfl
  exact ordinary

theorem Step.BuiltIn.within {step : Step} (builtIn : step.BuiltIn)
    (speaks : step.strategy ≠ .banner) : step.Within Call.Unpictured := by
  obtain banner | ⟨action, builtIn, does⟩ := builtIn
  · exact (speaks banner).elim
  · exact (does.within_ordinary builtIn).imp fun call => Call.Ordinary.unpictured

/-- The event that shows how the engine has answered to being asked for a picture. -/
def Evidence.shown (evidence : Evidence) : Except EngineError Unit → Event
  | .ok () => .captured evidence
  | .error error => .log .warning ("Capture failed: " ++ error.message)

/-- The events are the same, but for what has become of one and the same picture. -/
inductive Event.Beside : Event → Event → Prop where
  | same (event : Event) : Beside event event
  | apart (evidence : Evidence) (reply reply' : Except EngineError Unit) :
      Beside (evidence.shown reply) (evidence.shown reply')

namespace Ledger

/-- How many steps have passed, failed and run out of time. -/
def counts (ledger : Ledger) : Nat × Nat × Nat :=
  (ledger.passed, ledger.failed, ledger.timedOut)

/-- The ledgers count the same and tell the same, but for the pictures. -/
structure Beside (ledger other : Ledger) : Prop where
  counts : ledger.counts = other.counts
  events : List.Forall₂ Event.Beside ledger.events.toList other.events.toList

theorem counts_record (event : Event) (ledger : Ledger) :
    (ledger.record event).counts = (ledger.count event).counts := by
  unfold record push
  split <;> rfl

theorem counts_record_shown (evidence : Evidence) (reply : Except EngineError Unit)
    (ledger : Ledger) : (ledger.record (evidence.shown reply)).counts = ledger.counts := by
  rw [counts_record]
  cases reply <;> rfl

theorem counts_record_congr (event : Event) {ledger other : Ledger}
    (same : ledger.counts = other.counts) :
    (ledger.record event).counts = (other.record event).counts := by
  rw [counts_record, counts_record]
  simp only [counts, Prod.mk.injEq] at same ⊢
  cases event <;> simp [count, same]

variable {ledger other : Ledger}

theorem Beside.refl (ledger : Ledger) : ledger.Beside ledger :=
  ⟨rfl, List.forall₂_same.mpr fun event _ => .same event⟩

theorem Beside.record (beside : ledger.Beside other) (event : Event) :
    (ledger.record event).Beside (other.record event) where
  counts := counts_record_congr event beside.counts
  events := by
    rw [events_record, events_record, Array.toList_push, Array.toList_push]
    exact List.rel_append beside.events (.cons (.same event) .nil)

theorem Beside.recordShown (beside : ledger.Beside other) (evidence : Evidence)
    (reply reply' : Except EngineError Unit) :
    (ledger.record (evidence.shown reply)).Beside (other.record (evidence.shown reply')) where
  counts := by rw [counts_record_shown, counts_record_shown, beside.counts]
  events := by
    rw [events_record, events_record, Array.toList_push, Array.toList_push]
    exact List.rel_append beside.events (.cons (.apart evidence reply reply') .nil)

theorem Beside.writeAll (beside : ledger.Beside other) (history : List Occurrence) :
    (ledger.writeAll history).Beside (other.writeAll history) := by
  induction history generalizing ledger other with
  | nil => exact beside
  | cons occurrence rest inductionHypothesis =>
      refine inductionHypothesis ?_
      cases occurrence with
      | recorded event => exact beside.record event
      | answered | dropped | rested | entered | remarked | noted =>
          exact ⟨beside.counts, beside.events⟩

theorem Beside.picture (beside : ledger.Beside other) (evidence : Evidence) (ms : Nat)
    (reply reply' : Except EngineError Unit) :
    (ledger.writeAll (evidence.picture ms reply)).Beside
      (other.writeAll (evidence.picture ms reply')) := by
  -- A picture that could not be taken leaves a line in the trace, which is of no account.
  have written : ∀ (reply : Except EngineError Unit) (ledger : Ledger), ∃ traced : Ledger,
      ledger.writeAll (evidence.picture ms reply) = traced.record (evidence.shown reply) ∧
        traced.counts = ledger.counts ∧ traced.events = ledger.events := by
    intro reply ledger
    cases reply with
    | ok => exact ⟨ledger, rfl, rfl, rfl⟩
    | error => exact ⟨ledger.remark _, rfl, rfl, rfl⟩
  obtain ⟨traced, wrote, counts, events⟩ := written reply ledger
  obtain ⟨traced', wrote', counts', events'⟩ := written reply' other
  have still : traced.Beside traced' :=
    ⟨by rw [counts, counts', beside.counts], by rw [events, events']; exact beside.events⟩
  rw [wrote, wrote']
  exact still.recordShown evidence reply reply'

theorem Beside.close (beside : ledger.Beside other) : ledger.close.Beside other.close := by
  have counts := beside.counts
  simp only [Ledger.counts, Prod.mk.injEq] at counts
  obtain ⟨passed, failed, timedOut⟩ := counts
  rw [close_eq_record, close_eq_record, passed, failed, timedOut]
  exact beside.record _

/-- What the reports of such ledgers have in common. -/
theorem Beside.report (beside : ledger.Beside other) (time : Nat → String) :
    let report := ledger.report time
    let report' := other.report time
    (report.passed = report'.passed ∧ report.failed = report'.failed ∧
      report.timedOut = report'.timedOut ∧ report.hasFailures = report'.hasFailures) ∧
    List.Forall₂ Event.Beside report.events report'.events := by
  intro report report'
  have counts := beside.counts
  simp only [Ledger.counts, Prod.mk.injEq] at counts
  obtain ⟨passed, failed, timedOut⟩ := counts
  have failures : report.hasFailures = report'.hasFailures := by
    unfold Report.hasFailures
    rw [show report.failed = report'.failed from failed,
      show report.timedOut = report'.timedOut from timedOut]
  refine ⟨⟨passed, failed, timedOut, failures⟩, ?_⟩
  rw [events_report, events_report]
  exact beside.events

end Ledger

namespace Scheduled

variable {tells : Call → Prop} {config : Config} {ledger other : Ledger}

theorem Beside.writeAll {item : Scheduled} {history history' : List Occurrence}
    (beside : item.Beside tells config history history') (ledgers : ledger.Beside other) :
    (ledger.writeAll history).Beside (other.writeAll history') := by
  cases beside with
  | banner => exact ledgers.writeAll _
  | step =>
      rw [Ledger.writeAll_append, Ledger.writeAll_append]
      exact (ledgers.writeAll _).picture _ _ _ _

theorem writeAll_flatMap_beside {pipeline : List Scheduled}
    {pairs : List (List Occurrence × List Occurrence)}
    (beside : List.Forall₂ (fun item pair => item.Beside tells config pair.1 pair.2) pipeline
      pairs) (ledgers : ledger.Beside other) :
    (ledger.writeAll (pairs.flatMap Prod.fst)).Beside
      (other.writeAll (pairs.flatMap Prod.snd)) := by
  induction beside generalizing ledger other with
  | nil => exact ledgers
  | cons here _ inductionHypothesis =>
      rw [List.flatMap_cons, List.flatMap_cons, Ledger.writeAll_append, Ledger.writeAll_append]
      exact inductionHypothesis (here.writeAll ledgers)

end Scheduled

namespace World

/-- The world in which the first step of a suite is run. -/
def running (engine : Engine σ) (entryUrl : String) (suite : Suite) (world : World σ) : World σ :=
  ((world.tell suite.trace).started engine entryUrl).tell #[runningLine suite]

/-- What two runs of a suite have in common that differ in nothing but their pictures. -/
structure Matches (engine : Engine σ) (other : Engine τ) (config : Config) (entryUrl : String)
    (suite : Suite) (world after : World σ) (world' after' : World τ) : Prop where
  /-- The same is asked of both engines, at the same instants. -/
  calls : after.calls = after'.calls
  counts : ∀ time,
    (after.report time).passed = (after'.report time).passed ∧
    (after.report time).failed = (after'.report time).failed ∧
    (after.report time).timedOut = (after'.report time).timedOut ∧
    (after.report time).hasFailures = (after'.report time).hasFailures
  timeline : ∀ time,
    List.Forall₂ Event.Beside (after.report time).events (after'.report time).events
  outcomes : engine.Starts entryUrl world.state →
    (world.running engine entryUrl suite).outcomes engine config suite.pipeline =
      (world'.running other entryUrl suite).outcomes other config suite.pipeline
  /-- What comes to pass in the steps is the same, but for the answers to their pictures. -/
  steps : engine.Starts entryUrl world.state →
    ∃ pairs : List (List Occurrence × List Occurrence),
      List.Forall₂ (fun item pair => item.Beside Call.Unpictured config pair.1 pair.2)
        suite.pipeline pairs ∧
      Comprises engine entryUrl (pairs.map Prod.fst) world after ∧
      Comprises other entryUrl (pairs.map Prod.snd) world' after'

variable {engine : Engine σ} {other : Engine τ} {alike : σ → τ → Prop} {config : Config}
  {entryUrl : String} {suite : Suite} {world : World σ} {world' : World τ}

section

variable {allows tells : Call → Prop} (mirrors : engine.Mirrors allows tells alike other)

include mirrors

/-- The same comes to pass until the engines have been started. -/
theorem Abreast.started (told : tells (.start entryUrl)) (lines : Array Trace.Line)
    (abreast : world.Abreast alike world') :
    ∃ history,
      world.Unfolds engine history ((world.tell lines).started engine entryUrl) ∧
      world'.Unfolds other history ((world'.tell lines).started other entryUrl) ∧
      ((world.tell lines).started engine entryUrl).Abreast alike
        ((world'.tell lines).started other entryUrl) := by
  have tells : ∀ {σ : Type} (engine : Engine σ) (world : World σ),
      world.Unfolds engine
        (lines.toList.map .remarked ++ #[startingLine entryUrl].toList.map .remarked)
        ((world.tell lines).tell #[startingLine entryUrl]) :=
    fun engine world => (unfolds_tell engine lines world).append (unfolds_tell engine _ _)
  have announced : ((world.tell lines).tell #[startingLine entryUrl]).Abreast alike
      ((world'.tell lines).tell #[startingLine entryUrl]) :=
    (abreast.write _ _).write _ _
  obtain ⟨reply, history, after, after', ended, ended', front, front', later⟩ :=
    ((announced.call mirrors told).behind (tells engine world) (tells other world')).split
  unfold World.started
  rw [ended, ended']
  exact ⟨history, front, front', later⟩

theorem Abreast.running (told : tells (.start entryUrl)) (suite : Suite)
    (abreast : world.Abreast alike world') :
    ∃ history,
      world.Unfolds engine history (world.running engine entryUrl suite) ∧
      world'.Unfolds other history (world'.running other entryUrl suite) ∧
      (world.running engine entryUrl suite).Abreast alike
        (world'.running other entryUrl suite) := by
  obtain ⟨history, begun, begun', started⟩ := abreast.started mirrors told suite.trace
  unfold World.running
  exact ⟨_, begun.append (unfolds_tell engine _ _), begun'.append (unfolds_tell other _ _),
    started.write _ _⟩

end

section

variable (mirrors : engine.Mirrors (fun _ => True) Call.Unpictured alike other)
  (abreast : world.Abreast alike world') (ledgers : world.ledger.Beside world'.ledger)

include mirrors abreast

theorem Abreast.answers_start :
    (engine.answer (.start entryUrl) (engine.accept (.start entryUrl) world.state)).1 =
      (other.answer (.start entryUrl) (other.accept (.start entryUrl) world'.state)).1 :=
  abreast.reply mirrors (by rintro path ⟨⟩)

include ledgers

theorem matches_of_refuses {error : EngineError}
    (refuses : engine.Refuses entryUrl error world.state) :
    ∃ after after',
      world.run engine config entryUrl suite = (.error (.engine error), after) ∧
      world'.run other config entryUrl suite = (.error (.engine error), after') ∧
      Matches engine other config entryUrl suite world after world' after' := by
  have refuses' : other.Refuses entryUrl error world'.state :=
    (abreast.answers_start mirrors).symm.trans refuses
  have fails : ¬engine.Starts entryUrl world.state := by
    intro starts
    cases starts.symm.trans refuses
  obtain ⟨opening, begun, begun', started⟩ :=
    abreast.started mirrors (by rintro path ⟨⟩) suite.trace
  have beside : ((world.tell suite.trace).started engine entryUrl).ledger.Beside
      ((world'.tell suite.trace).started other entryUrl).ledger := by
    rw [begun.ledger, begun'.ledger]
    exact ledgers.writeAll opening
  exact ⟨_, _, run_of_refuses refuses, run_of_refuses refuses', started.calls,
    fun time => (beside.report time).1, fun time => (beside.report time).2,
    fun starts => (fails starts).elim, fun starts => (fails starts).elim⟩

theorem matches_of_starts (closes : engine.closes = other.closes)
    (builtIn : ∀ item ∈ suite.pipeline, item.step.BuiltIn)
    (starts : engine.Starts entryUrl world.state) :
    ∃ after after',
      world.run engine config entryUrl suite = (.ok (), after) ∧
      world'.run other config entryUrl suite = (.ok (), after') ∧
      Matches engine other config entryUrl suite world after world' after' := by
  have starts' : other.Starts entryUrl world'.state :=
    (abreast.answers_start mirrors).symm.trans starts
  obtain ⟨opening, begun, begun', running⟩ :=
    abreast.running mirrors (by rintro path ⟨⟩) suite
  obtain ⟨pairs, beside, outcomes, gone, gone', emptied⟩ :=
    running.runSteps mirrors (fun _ => trivial) config
      (fun item membership => (builtIn item membership).within)
  have last : ((world.running engine entryUrl suite).runSteps engine config
      suite.pipeline).ledger.Beside
        ((world'.running other entryUrl suite).runSteps other config suite.pipeline).ledger := by
    rw [gone.ledger, gone'.ledger, begun.ledger, begun'.ledger]
    exact Scheduled.writeAll_flatMap_beside beside (ledgers.writeAll opening)
  have farewell : engine.farewell = other.farewell := by rw [Engine.farewell, closes]; rfl
  refine ⟨_, _, run_of_starts starts, run_of_starts starts', ?_, ?_, ?_, fun _ => outcomes, ?_⟩
  · rw [← Array.toList_inj, calls_drive, calls_drive, farewell]
    have calls := emptied.calls
    have clock := emptied.clock
    unfold World.running at calls clock
    rw [World.emptied, World.emptied, calls, clock]
  · intro time
    rw [report_drive, report_drive]
    exact (last.close.report time).1
  · intro time
    rw [report_drive, report_drive]
    exact (last.close.report time).2
  · intro _
    rw [List.flatMap_def] at gone gone'
    exact ⟨pairs, beside,
      (run_comprises engine config suite starts (start_of_starts starts) gone).2,
      (run_comprises other config suite starts' (start_of_starts starts') gone').2⟩

end

/-- Whatever becomes of its pictures, a run goes the same way.  Under engines that go alike and
answer alike to anything but being asked for a picture, it comes to the same result; the same calls
are made at the same instants, every step has the same outcome, and the reports count the same and
tell the same, but for the events that show what has become of the pictures. -/
theorem fresh_matches (mirrors : engine.Mirrors (fun _ => True) Call.Unpictured alike other)
    (closes : engine.closes = other.closes) (config : Config) (entryUrl : String)
    (builtIn : ∀ item ∈ suite.pipeline, item.step.BuiltIn) {state : σ} {state' : τ}
    (related : alike state state') (clock : Nat) (notebook : Notebook) :
    ∃ result after after',
      World.run engine config entryUrl suite (.fresh state clock notebook) = (result, after) ∧
      World.run other config entryUrl suite (.fresh state' clock notebook) = (result, after') ∧
      Matches engine other config entryUrl suite (.fresh state clock notebook) after
        (.fresh state' clock notebook) after' := by
  have abreast : (fresh state clock notebook).Abreast alike (fresh state' clock notebook) :=
    ⟨related, rfl, rfl, rfl⟩
  cases reply : (engine.answer (.start entryUrl) (engine.accept (.start entryUrl) state)).1 with
  | error error => exact ⟨_, matches_of_refuses mirrors abreast (.refl _) reply⟩
  | ok => exact ⟨_, matches_of_starts mirrors abreast (.refl _) closes builtIn reply⟩

end World

namespace Page

/-- The pages are the same, but for the disk that the pictures go to. -/
def Alike (page page' : Page) : Prop :=
  ∃ failing, page' = { page with failingCaptures := failing }

theorem answer_full (failing : Bool) (call : Call) (page : Page) :
    (answer call { page with failingCaptures := failing }).2 =
      { (answer call page).2 with failingCaptures := failing } := by
  cases call with
  | selectorExists selector =>
      unfold answer probe
      dsimp only
      split <;> rfl
  | fill selector form submit =>
      unfold answer hasSelector
      dsimp only
      split
      · rfl
      · split <;> rfl
  | _ => rfl

theorem answers_full (failing : Bool) {call : Call} (unpictured : call.Unpictured) (page : Page) :
    (answer call page).1 = (answer call { page with failingCaptures := failing }).1 := by
  cases call with
  | capture path => exact (unpictured path rfl).elim
  | selectorExists selector =>
      unfold answer probe
      dsimp only
      split <;> rfl
  | fill selector form submit =>
      unfold answer hasSelector
      dsimp only
      split <;> rfl
  | _ => rfl

theorem engine_mirrors : engine.Mirrors (fun _ => True) Call.Unpictured Alike engine where
  accept _ _ _ _ alike := alike
  delay _ _ _ _ _ := rfl
  silent _ _ _ _ _ := rfl
  answer := by
    rintro call - page _ ⟨failing, rfl⟩
    exact ⟨failing, answer_full failing call page⟩
  reply := by
    rintro call unpictured page _ ⟨failing, rfl⟩
    exact answers_full failing unpictured page
  allowed _ _ := trivial

/-- A shop with something to buy in it. -/
def stocked : Page :=
  blank.withSelector "#buy"

def buying : Suite :=
  Suite.empty.scenario "Buying" [
    (Action.goTo "the shop" "/shop").voiced .when,
    (Action.click "buy" "#buy").voiced .and]

theorem buying_builtIn : ∀ item ∈ buying.pipeline, item.step.BuiltIn := by
  refine ((Suite.empty_only Step.BuiltIn).scenario Step.banner_builtIn "Buying" ?_).scheduled
  intro step membership
  rcases List.mem_pair.mp membership with rfl | rfl
  · exact (Action.BuiltIn.goTo "the shop" "/shop").voiced .when
  · exact (Action.BuiltIn.click "buy" "#buy").voiced .and

/-- The purchase is made on a full disk as well, with warnings in place of the pictures. -/
theorem buying_matches :
    ((World.run engine .default "/" buying (.fresh stocked 0 .empty)).2.report
        fun _ => "12:00:00").evidence.length = 2 ∧
      ((World.run engine .default "/" buying
        (.fresh { stocked with failingCaptures := true } 0 .empty)).2.report
          fun _ => "12:00:00").evidence = [] ∧
      engine.Mirrors (fun _ => True) Call.Unpictured Alike engine ∧
      (∀ item ∈ buying.pipeline, item.step.BuiltIn) ∧
      Alike stocked { stocked with failingCaptures := true } ∧
      ∃ result after after',
        World.run engine .default "/" buying (.fresh stocked 0 .empty) = (result, after) ∧
        World.run engine .default "/" buying
          (.fresh { stocked with failingCaptures := true } 0 .empty) = (result, after') ∧
        World.Matches engine engine .default "/" buying (.fresh stocked 0 .empty) after
          (.fresh { stocked with failingCaptures := true } 0 .empty) after' :=
  ⟨rfl, rfl, engine_mirrors, buying_builtIn, ⟨true, rfl⟩,
    World.fresh_matches engine_mirrors rfl .default "/" buying_builtIn ⟨true, rfl⟩ 0 .empty⟩

end Page

end Rehearsal

import Rehearsal.Engine.Page
import Rehearsal.Proofs.Run.Likeness
import Rehearsal.Step.Action

/-!
How a run begins and ends.

The engine is started first, and told at last that the run is over, whatever has come to pass in
between.  A run fails only because the engine does not start or because the scenarios cannot be
defined.
-/

namespace Rehearsal

variable {σ : Type}

/-- The engine does not start at an address. -/
def Engine.Refuses (engine : Engine σ) (entryUrl : String) (error : EngineError) (state : σ) :
    Prop :=
  (engine.answer (.start entryUrl) (engine.accept (.start entryUrl) state)).1 = .error error

namespace World

/-- The engine has been asked to start. -/
def started (engine : Engine σ) (entryUrl : String) (world : World σ) : World σ :=
  ((world.tell #[startingLine entryUrl]).call engine (.start entryUrl)).2

/-- The steps of a suite have been run in a started world, down to the last. -/
def emptied (engine : Engine σ) (config : Config) (suite : Suite) (world : World σ) : World σ :=
  runSteps engine config suite.pipeline (world.tell #[runningLine suite])

variable {engine : Engine σ} {config : Config} {entryUrl : String} {suite : Suite}
  {world world' : World σ}

theorem start_eq (engine : Engine σ) (entryUrl : String) (world : World σ) :
    world.start engine entryUrl =
      ((engine.answer (.start entryUrl)
          (engine.accept (.start entryUrl) world.state)).1.mapError .engine,
        world.started engine entryUrl) := by
  have answered : ((world.tell #[startingLine entryUrl]).call engine (.start entryUrl)).1 =
      (engine.answer (.start entryUrl) (engine.accept (.start entryUrl) world.state)).1 := rfl
  unfold start started
  rw [← answered]
  generalize World.call engine (.start entryUrl) _ = asked
  obtain ⟨reply | error, after⟩ := asked
  · rfl
  · rfl

theorem start_of_starts (starts : engine.Starts entryUrl world.state) :
    world.start engine entryUrl = (.ok (), world.started engine entryUrl) := by
  rw [start_eq, starts]
  rfl

theorem start_of_refuses {error : EngineError}
    (refuses : engine.Refuses entryUrl error world.state) :
    world.start engine entryUrl = (.error (.engine error), world.started engine entryUrl) := by
  rw [start_eq, refuses]
  rfl

theorem Alike.tell (alike : world.Alike world') (lines : Array Trace.Line) :
    (world.tell lines).Alike (world'.tell lines) := by
  refine alike.write ?_
  intro ledger other ledgers
  cases ledgers
  exact .both _ _ _ _ _ _ _

/-- It makes no difference whether lines are told before the engine is started or after it. -/
theorem alike_started (engine : Engine σ) (entryUrl : String) (lines : Array Trace.Line)
    (world : World σ) :
    ((world.tell lines).started engine entryUrl).Alike
      ((world.started engine entryUrl).tell lines) :=
  .both _ _ _ _ (.both _ _ _ _ _ _ _)

/-- Only the trace tells how the engine has taken it that the run is over. -/
theorem shutDown_eq (engine : Engine σ) (world : World σ) :
    ∃ lines, world.shutDown engine =
      (if engine.closes then (world.call engine .finish).2 else world).tell lines := by
  unfold shutDown
  split
  next =>
    split
    next reply after asked => exact ⟨#[], by rw [asked]; simp [tell, write]⟩
    next error after asked => exact ⟨_, by rw [asked]⟩
  next => exact ⟨#[], by simp [tell, write]⟩

theorem calls_shutDown (engine : Engine σ) (world : World σ) :
    (world.shutDown engine).calls.toList =
      world.calls.toList ++ engine.farewell.map fun call => (world.clock, call) := by
  obtain ⟨lines, same⟩ := shutDown_eq engine world
  rw [same, Engine.farewell]
  split
  · simp [World.call, complete, begin, tell, write]
  · simp [tell, write]

theorem alike_shutDown (engine : Engine σ) (world : World σ) :
    (world.shutDown engine).ledger.Alike world.ledger := by
  obtain ⟨lines, same⟩ := shutDown_eq engine world
  rw [same]
  split
  · exact .both _ _ _ _ _ _ _
  · exact .both _ _ _ _ _ _ _

theorem calls_drive (engine : Engine σ) (config : Config) (suite : Suite) (world : World σ) :
    (world.drive engine config suite).calls.toList =
      (world.emptied engine config suite).calls.toList ++
        engine.farewell.map fun call => ((world.emptied engine config suite).clock, call) :=
  calls_shutDown engine (world.emptied engine config suite)

theorem report_drive (engine : Engine σ) (config : Config) (suite : Suite)
    (time : Nat → String) (world : World σ) :
    (world.drive engine config suite).report time =
      (world.emptied engine config suite).ledger.finish time :=
  (alike_shutDown engine (world.emptied engine config suite)).close.report time

theorem run_of_starts (starts : engine.Starts entryUrl world.state) :
    world.run engine config entryUrl suite =
      (.ok (), ((world.tell suite.trace).started engine entryUrl).drive engine config suite) := by
  have ready : engine.Starts entryUrl (world.tell suite.trace).state := starts
  simp only [run, start_of_starts ready]

theorem run_of_refuses {error : EngineError}
    (refuses : engine.Refuses entryUrl error world.state) :
    world.run engine config entryUrl suite =
      (.error (.engine error), (world.tell suite.trace).started engine entryUrl) := by
  have refusing : engine.Refuses entryUrl error (world.tell suite.trace).state := refuses
  simp only [run, start_of_refuses refusing]

theorem runDefined_of_starts {define : Definition} (starts : engine.Starts entryUrl world.state)
    (defined : define .empty = (.ok (), suite)) :
    world.runDefined engine config entryUrl define =
      (.ok (), ((world.started engine entryUrl).tell suite.trace).drive engine config suite) := by
  simp only [runDefined, start_of_starts starts, defined]

theorem emptied_unfolds (engine : Engine σ) (suite : Suite) (world : World σ) :
    ∃ histories, List.Forall₂ (Scheduled.Unrolls config) suite.pipeline histories ∧
      (world.emptied engine config suite).calls.toList.map Prod.snd =
        world.calls.toList.map Prod.snd ++ histories.flatten.filterMap Occurrence.call? := by
  obtain ⟨histories, unroll, unfolds⟩ :=
    runSteps_unfolds engine config suite.pipeline (world.tell #[runningLine suite])
  exact ⟨histories, unroll, unfolds.calls⟩

section

variable {other : Engine σ} {allows : Call → Prop}

theorem Alike.started (agrees : engine.Agrees allows other) (entryUrl : String)
    (allowed : allows (.start entryUrl)) (alike : world.Alike world') :
    (world.started engine entryUrl).Alike (world'.started other entryUrl) := by
  obtain ⟨reply, after, after', ended, ended', alike⟩ :=
    ((alike.tell #[startingLine entryUrl]).call agrees allowed).split
  rw [World.started, World.started, ended, ended']
  exact alike

theorem Alike.emptied (agrees : engine.Agrees allows other)
    (pictures : ∀ path, allows (.capture path))
    (within : ∀ item ∈ suite.pipeline, item.step.Within allows) (config : Config)
    (alike : world.Alike world') :
    (world.emptied engine config suite).Alike (world'.emptied other config suite) :=
  (alike.tell #[runningLine suite]).runSteps agrees pictures config within

theorem Alike.finish (alike : world.Alike world') (time : Nat → String) :
    world.ledger.finish time = world'.ledger.finish time := by
  cases alike with
  | both _ _ _ _ ledgers => exact ledgers.close.report time

end

theorem calls_within {allows : Call → Prop} (pictures : ∀ path, allows (.capture path))
    {pipeline : List Scheduled} {histories : List (List Occurrence)}
    (within : ∀ item ∈ pipeline, item.step.Within allows)
    (unroll : List.Forall₂ (Scheduled.Unrolls config) pipeline histories) :
    ∀ call ∈ histories.flatten.filterMap Occurrence.call?, allows call := by
  induction unroll with
  | nil => simp
  | cons unrolls _ inductionHypothesis =>
      obtain ⟨first, others⟩ := List.forall_mem_cons.mp within
      obtain ⟨outcome, unrolls⟩ := unrolls
      rw [List.flatten_cons, List.filterMap_append, List.forall_mem_append]
      exact ⟨first.unrolls pictures unrolls, inductionHypothesis others⟩

/-- How runs at an address begin and end in a world. -/
structure Bracketed (engine : Engine σ) (config : Config) (entryUrl : String) (world : World σ) :
    Prop where
  /-- An engine that does not start is asked for nothing else, and nothing is defined for it. -/
  refused : ∀ error, engine.Refuses entryUrl error world.state →
    ∃ after,
      after.calls.toList.map Prod.snd = [.start entryUrl] ∧
      (∀ define,
        world.runDefined engine config entryUrl define = (.error (.engine error), after)) ∧
      ∀ suite, ∃ after',
        world.run engine config entryUrl suite = (.error (.engine error), after') ∧
        after'.calls = after.calls
  /-- No step is run if the scenarios cannot be defined. -/
  abandoned : engine.Starts entryUrl world.state →
    ∀ define error suite, define .empty = (.error error, suite) →
    ∃ after,
      world.runDefined engine config entryUrl define = (.error error, after) ∧
      after.calls.toList.map Prod.snd = .start entryUrl :: engine.farewell
  /-- It makes no difference whether scenarios are defined before the engine is started or after
  it. -/
  agreed : engine.Starts entryUrl world.state →
    ∀ define suite, define .empty = (.ok (), suite) →
    ∃ after after',
      world.runDefined engine config entryUrl define = (.ok (), after) ∧
      world.run engine config entryUrl suite = (.ok (), after') ∧
      after.calls = after'.calls ∧ ∀ time, after.report time = after'.report time
  /-- A run comes to its end behind the last step, and the report is what it was there. -/
  completed : engine.Starts entryUrl world.state →
    ∀ suite, ∃ ended histories after,
      ended = ((world.tell suite.trace).started engine entryUrl).emptied engine config suite ∧
      List.Forall₂ (Scheduled.Unrolls config) suite.pipeline histories ∧
      ended.calls.toList.map Prod.snd =
        .start entryUrl :: histories.flatten.filterMap Occurrence.call? ∧
      world.run engine config entryUrl suite = (.ok (), after) ∧
      after.calls.toList =
        ended.calls.toList ++ (engine.farewell.map fun call => (ended.clock, call)) ∧
      ∀ time, after.report time = ended.ledger.finish time
  /-- Where no step does so by itself, the engine is told once that the run is over, and what it
  makes of that does not show in the report. -/
  once : engine.Starts entryUrl world.state →
    ∀ suite, (∀ item ∈ suite.pipeline, item.step.Within (· ≠ .finish)) →
    ∃ before after,
      world.run engine config entryUrl suite = (.ok (), after) ∧
      after.calls.toList.map Prod.snd = before ++ engine.farewell ∧ .finish ∉ before ∧
      ∀ other, engine.Agrees (· ≠ .finish) other →
        ∃ after',
          world.run other config entryUrl suite = (.ok (), after') ∧
          ∀ time, after'.report time = after.report time

theorem report_agrees (config : Config) {other : Engine σ}
    (starts : engine.Starts entryUrl world.state)
    (within : ∀ item ∈ suite.pipeline, item.step.Within (· ≠ .finish))
    (agrees : engine.Agrees (· ≠ .finish) other) :
    ∃ after,
      world.run other config entryUrl suite = (.ok (), after) ∧
      ∀ time, after.report time =
        (((world.tell suite.trace).started engine entryUrl).emptied engine config
          suite).ledger.finish time := by
  have ready : other.Starts entryUrl world.state := by
    unfold Engine.Starts
    rw [← agrees.accept _ (by simp), ← agrees.answer _ (by simp)]
    exact starts
  have begun := (Alike.refl (world.tell suite.trace)).started agrees entryUrl (by simp)
  have ended := begun.emptied agrees (by simp) within config
  refine ⟨_, run_of_starts ready, ?_⟩
  intro time
  rw [report_drive]
  exact (ended.finish time).symm

/-- A run starts the engine once and tells it once that the run is over.  Nothing that the engine
does between makes the run fail. -/
theorem fresh_bracketed (engine : Engine σ) (entryUrl : String) (state : σ) (clock : Nat)
    (notebook : Notebook) :
    (fresh state clock notebook).Bracketed engine config entryUrl where
  refused error refuses := by
    refine ⟨(fresh state clock notebook).started engine entryUrl, rfl, ?_, ?_⟩
    · intro define
      simp only [runDefined, start_of_refuses refuses]
    · intro suite
      have refusing : engine.Refuses entryUrl error
          ((fresh state clock notebook).tell suite.trace).state := refuses
      refine ⟨((fresh state clock notebook).tell suite.trace).started engine entryUrl, ?_, rfl⟩
      simp only [run, start_of_refuses refusing]
  abandoned starts define error suite defined := by
    refine ⟨(((fresh state clock notebook).started engine entryUrl).tell suite.trace).shutDown
      engine, ?_, ?_⟩
    · simp only [runDefined, start_of_starts starts, defined]
    · have begun : (((fresh state clock notebook).started engine entryUrl).tell
          suite.trace).calls.toList = [(clock, .start entryUrl)] := rfl
      simp [calls_shutDown, begun, Function.comp_def]
  agreed starts define suite defined := by
    have ready := alike_started engine entryUrl suite.trace (fresh state clock notebook)
    have within : ∀ item ∈ suite.pipeline, item.step.Within fun _ => True :=
      fun item _ => item.step.within_true
    have ended := ready.emptied (engine.agrees_self _) (fun _ => trivial) within config
    refine ⟨_, _, runDefined_of_starts starts defined, run_of_starts starts, ?_, ?_⟩
    · rw [← Array.toList_inj, calls_drive, calls_drive, ended.calls, ended.clock]
    · intro time
      rw [report_drive, report_drive, ended.finish time]
  completed starts suite := by
    obtain ⟨histories, unroll, calls⟩ := emptied_unfolds engine suite
      (((fresh state clock notebook).tell suite.trace).started engine entryUrl)
    exact ⟨_, histories, _, rfl, unroll, calls, run_of_starts starts,
      calls_drive engine config suite _, fun time => report_drive engine config suite time _⟩
  once starts suite within := by
    -- What the steps call for is read off their histories, and there is no `finish` among it.
    obtain ⟨histories, unroll, calls⟩ := emptied_unfolds engine suite
      (((fresh state clock notebook).tell suite.trace).started engine entryUrl)
    have begun : (((fresh state clock notebook).tell suite.trace).started engine
        entryUrl).calls.toList.map Prod.snd = [.start entryUrl] := rfl
    refine ⟨.start entryUrl :: histories.flatten.filterMap Occurrence.call?, _,
      run_of_starts starts, ?_, ?_, ?_⟩
    · rw [calls_drive, List.map_append, calls, begun]
      simp [Function.comp_def]
    · rw [List.mem_cons, not_or]
      exact ⟨by simp, fun membership => calls_within (by simp) within unroll _ membership rfl⟩
    · intro other agrees
      obtain ⟨after, ran, reports⟩ := report_agrees config starts within agrees
      refine ⟨after, ran, ?_⟩
      intro time
      rw [reports, report_drive]

end World

namespace Page

/-- A lunch is defined, and a dinner is asked for that nobody has defined. -/
def dinner : Definition := fun suite =>
  let lunch := suite.scenario "Lunch" [(Action.see "the soup" "Soup").voiced .then]
  match lunch.dependsOn "Dinner" with
  | .ok dinner => (.ok (), dinner)
  | .error error => (.error error, lunch)

/-- The lunch is not run, and the engine is told that it is over. -/
theorem dinner_abandoned :
    (dinner .empty).2.pending = 2 ∧
      ∃ after,
        World.runDefined engine .default "/menu" dinner (.fresh blank 0 .empty) =
          (.error (.unknownScenario "Dinner"), after) ∧
        after.calls.toList.map Prod.snd = [.start "/menu", .finish] :=
  ⟨rfl,
    (World.fresh_bracketed engine "/menu" blank 0 .empty).abandoned rfl dinner
      (.unknownScenario "Dinner") (dinner .empty).2 rfl⟩

end Page

end Rehearsal

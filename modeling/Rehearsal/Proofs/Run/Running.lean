import Mathlib.Data.List.Forall2
import Rehearsal.Proofs.Run.Stepping
import Rehearsal.Run.Basic

/-!
What comes to pass in a whole run.

Once the engine has started, the steps are run one behind the other, and each leaves a history of
its own behind.  Nothing stops a run on its way to the end.
-/

namespace Rehearsal

/-- What comes to pass while a step of the pipeline is run. -/
def Scheduled.Unrolls (config : Config) (item : Scheduled) (history : List Occurrence) : Prop :=
  ∃ outcome, item.step.Unrolls config item.context history outcome

variable {σ : Type}

namespace Engine

/-- The engine starts at an address. -/
def Starts (engine : Engine σ) (entryUrl : String) (state : σ) : Prop :=
  (engine.answer (.start entryUrl) (engine.accept (.start entryUrl) state)).1 = .ok ()

/-- The calls that tell an engine that a run is over; none where it does not want to be told. -/
def farewell (engine : Engine σ) : List Call :=
  if engine.closes then [.finish] else []

end Engine

namespace World

/-- A world in which nothing has been asked and nothing recorded. -/
def fresh (state : σ) (clock : Nat) (notebook : Notebook) : World σ :=
  { initial state with clock, notebook }

/-- What comes to pass in a run whose steps leave these histories behind: the engine is started
before the first of them, and told behind the last that it is over; then the ledger is closed. -/
def Comprises (engine : Engine σ) (entryUrl : String) (histories : List (List Occurrence))
    (world after : World σ) : Prop :=
  ∃ opening closing passes failures timeouts,
    world.Unfolds engine (opening ++ (histories.flatten ++ closing)) after ∧
    (opening.filterMap Occurrence.call? = [.start entryUrl] ∧
      opening.filterMap Occurrence.event? = [] ∧
      opening.filterMap Occurrence.note? = []) ∧
    closing.filterMap Occurrence.call? = engine.farewell ∧
    closing.filterMap Occurrence.event? = [.done passes failures timeouts] ∧
    closing.filterMap Occurrence.note? = []

/-- A run of a pipeline from its beginning to its end, and what each step leaves behind. -/
structure Runs (engine : Engine σ) (config : Config) (entryUrl : String)
    (pipeline : List Scheduled) (histories : List (List Occurrence)) (world after : World σ) :
    Prop where
  steps : List.Forall₂ (Scheduled.Unrolls config) pipeline histories
  comprises : Comprises engine entryUrl histories world after

variable (engine : Engine σ) (config : Config)

theorem start_unfolds {entryUrl : String} {world : World σ}
    (starts : engine.Starts entryUrl world.state) :
    ∃ after history,
      world.start engine entryUrl = (.ok (), after) ∧
      world.Unfolds engine history after ∧
      history.filterMap Occurrence.call? = [.start entryUrl] ∧
      history.filterMap Occurrence.event? = [] ∧
      history.filterMap Occurrence.note? = [] := by
  have told := unfolds_tell engine #[startingLine entryUrl] world
  have called := call_unfolds engine (.start entryUrl) (world.tell #[startingLine entryUrl])
  have answered : ((world.tell #[startingLine entryUrl]).call engine (.start entryUrl)).1 =
      .ok () := starts
  refine ⟨((world.tell #[startingLine entryUrl]).call engine (.start entryUrl)).2, _, ?_,
    told.append called, by simp [List.filterMap_cons], by simp, by simp⟩
  unfold start
  split
  next reply after asked => rw [asked]
  next error after asked =>
    rw [asked] at answered
    cases answered

theorem shutDown_unfolds (world : World σ) :
    ∃ history, world.Unfolds engine history (world.shutDown engine) ∧
      history.filterMap Occurrence.call? = engine.farewell ∧
      history.filterMap Occurrence.event? = [] ∧
      history.filterMap Occurrence.note? = [] := by
  unfold shutDown Engine.farewell
  split
  next closes =>
    have called := call_unfolds engine .finish world
    split
    next reply after asked =>
      rw [asked] at called
      exact ⟨_, called, by simp, by simp, by simp⟩
    next error after asked =>
      rw [asked] at called
      exact ⟨_, called.append (unfolds_tell engine _ after), by simp, by simp, by simp⟩
  next => exact ⟨[], .done world, rfl, rfl, rfl⟩

theorem close_unfolds (world : World σ) :
    ∃ passes failures timeouts,
      world.Unfolds engine [.recorded (.done passes failures timeouts)]
        (world.write Ledger.close) := by
  have counted : world.write Ledger.close = world.write (Ledger.record
      (.done world.ledger.passed world.ledger.failed world.ledger.timedOut)) := by
    rw [write, Ledger.close_eq_record]
    rfl
  rw [counted]
  exact ⟨_, _, _, (Undergoes.recorded world _).unfolds⟩

/-- A run whose engine has started comprises what its steps leave behind. -/
theorem run_comprises {entryUrl : String} (suite : Suite) {world started : World σ}
    (starts : engine.Starts entryUrl world.state)
    (start : (world.tell suite.trace).start engine entryUrl = (.ok (), started))
    {histories : List (List Occurrence)}
    (gone : (started.tell #[runningLine suite]).Unfolds engine histories.flatten
      (runSteps engine config suite.pipeline (started.tell #[runningLine suite]))) :
    world.run engine config entryUrl suite = (.ok (), started.drive engine config suite) ∧
      Comprises engine entryUrl histories world (started.drive engine config suite) := by
  have told := unfolds_tell engine suite.trace world
  have ready : engine.Starts entryUrl (world.tell suite.trace).state := starts
  obtain ⟨begun, beginning, also, began, call, silent, blank⟩ := start_unfolds engine ready
  cases start.symm.trans also
  have announced := unfolds_tell engine #[runningLine suite] started
  obtain ⟨parting, parted, farewell, wordless, noteless⟩ :=
    shutDown_unfolds engine
      (runSteps engine config suite.pipeline (started.tell #[runningLine suite]))
  obtain ⟨passes, failures, timeouts, closed⟩ := close_unfolds engine
    ((runSteps engine config suite.pipeline (started.tell #[runningLine suite])).shutDown engine)
  refine ⟨by simp only [run, start],
    suite.trace.toList.map .remarked ++ (beginning ++ [.remarked (runningLine suite)]),
    parting ++ [.recorded (.done passes failures timeouts)], passes, failures, timeouts, ?_,
    ⟨?_, ?_, ?_⟩, ?_, ?_, ?_⟩
  · rw [List.append_assoc, List.append_assoc]
    exact told.append (began.append (announced.append (gone.append (parted.append closed))))
  · rw [List.filterMap_append, List.filterMap_append, calls_map_remarked, call]
    rfl
  · rw [List.filterMap_append, List.filterMap_append, events_map_remarked, silent]
    rfl
  · rw [List.filterMap_append, List.filterMap_append, notes_map_remarked, blank]
    rfl
  · simp [farewell]
  · simp [wordless]
  · simp [noteless]

theorem execute_unrolls (item : Scheduled) (world : World σ) :
    ∃ history, item.Unrolls config history ∧
      world.Unfolds engine history (world.execute engine config item.context item.step).2 := by
  obtain ⟨history, unrolls, unfolds⟩ :=
    execute_unfolds engine config item.context item.step world
  exact ⟨history, ⟨_, unrolls⟩, unfolds⟩

/-- Steps that are run one behind the other take their courses one behind the other. -/
theorem runSteps_courses {α : Type} {Takes : Scheduled → α → Prop} {history : α → List Occurrence}
    {pipeline : List Scheduled}
    (each : ∀ item ∈ pipeline, ∀ world : World σ, ∃ course, Takes item course ∧
      world.Unfolds engine (history course)
        (world.execute engine config item.context item.step).2) (world : World σ) :
    ∃ courses, List.Forall₂ Takes pipeline courses ∧
      world.Unfolds engine (courses.flatMap history) (world.runSteps engine config pipeline) := by
  induction pipeline generalizing world with
  | nil => exact ⟨[], .nil, .done world⟩
  | cons item rest inductionHypothesis =>
      obtain ⟨first, others⟩ := List.forall_mem_cons.mp each
      obtain ⟨course, takes, unfolds⟩ := first world
      obtain ⟨courses, take, gone⟩ := inductionHypothesis others
        (world.execute engine config item.context item.step).2
      exact ⟨course :: courses, .cons takes take, unfolds.append gone⟩

theorem runSteps_unfolds (pipeline : List Scheduled) (world : World σ) :
    ∃ histories, List.Forall₂ (Scheduled.Unrolls config) pipeline histories ∧
      world.Unfolds engine histories.flatten (world.runSteps engine config pipeline) := by
  obtain ⟨histories, unroll, unfolds⟩ := runSteps_courses engine config
    (fun item (_ : item ∈ pipeline) world => execute_unrolls engine config item world) world
  exact ⟨histories, unroll, by simpa using unfolds⟩

/-- Once the engine has started, a run comes to its end. -/
theorem run_unfolds {entryUrl : String} (suite : Suite) {world : World σ}
    (starts : engine.Starts entryUrl world.state) :
    ∃ after histories,
      world.run engine config entryUrl suite = (.ok (), after) ∧
      Runs engine config entryUrl suite.pipeline histories world after := by
  have ready : engine.Starts entryUrl (world.tell suite.trace).state := starts
  obtain ⟨started, -, start, -⟩ := start_unfolds engine ready
  obtain ⟨histories, unroll, gone⟩ :=
    runSteps_unfolds engine config suite.pipeline (started.tell #[runningLine suite])
  obtain ⟨ran, comprises⟩ := run_comprises engine config suite starts start gone
  exact ⟨_, histories, ran, unroll, comprises⟩

section

variable {engine} {entryUrl : String} {histories : List (List Occurrence)} {world after : World σ}
  (comprises : Comprises engine entryUrl histories world after)

include comprises

theorem Comprises.calls :
    after.calls.toList.map Prod.snd =
      world.calls.toList.map Prod.snd ++
        (.start entryUrl ::
          (histories.flatten.filterMap Occurrence.call? ++ engine.farewell)) := by
  obtain ⟨opening, closing, passes, failures, timeouts, unfolds, ⟨opens, -⟩, closes, -⟩ :=
    comprises
  rw [unfolds.calls, List.filterMap_append, List.filterMap_append, opens, closes]
  rfl

theorem Comprises.events :
    ∃ passes failures timeouts,
      after.ledger.events.toList =
        world.ledger.events.toList ++
          (histories.flatten.filterMap Occurrence.event? ++
            [.done passes failures timeouts]) := by
  obtain ⟨opening, closing, passes, failures, timeouts, unfolds, ⟨-, opens, -⟩, -, closes, -⟩ :=
    comprises
  refine ⟨passes, failures, timeouts, ?_⟩
  rw [unfolds.events, List.filterMap_append, List.filterMap_append, opens, closes]
  rfl

/-- What is noted down in a run is noted down by its steps. -/
theorem Comprises.notebook :
    after.notebook =
      world.notebook.recordAll
        (histories.flatMap fun history => history.filterMap Occurrence.note?) := by
  obtain ⟨opening, closing, passes, failures, timeouts, unfolds, ⟨-, -, opens⟩, -, -, closes⟩ :=
    comprises
  rw [unfolds.notebook, List.filterMap_append, List.filterMap_append, opens, closes,
    List.nil_append, List.append_nil, List.filterMap_flatten, List.flatMap_def]

end

end World

end Rehearsal

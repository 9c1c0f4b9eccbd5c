import Rehearsal.Proofs.Run.Bracket

/-!
The trace of a run.

A line of the trace that names a step names the one that is being run, whoever has written it: lines
of the log are tagged with the step that the ledger is at, and reports with the step that they are
about.  All that the ledger records, but for the banners, is told in a line of its own.
-/

namespace Rehearsal

namespace Trace.Line

/-- If the line names a scenario and an index, these are the ones of a step. -/
def BelongsTo (context : Context) (line : Line) : Prop :=
  ∀ scenario index, ("scenario", scenario) ∈ line.fields → ("index", index) ∈ line.fields →
    scenario = .text context.scenario ∧ index = .number context.index

/-- The line does not name both a scenario and an index. -/
def Placeless (line : Line) : Prop :=
  ∀ scenario index, ("scenario", scenario) ∈ line.fields → ("index", index) ∉ line.fields

/-- The line has been written by the ledger, as can be seen from what it names: a step, the counts,
or a picture that was taken. -/
def ofLedger (line : Line) : Bool :=
  let names := line.fields.map Prod.fst
  names == ["scenario", "index"] || names == ["passed", "failed", "timed_out"] ||
    names == ["path"] && line.severity == .info

/-- The line is about no step, and the ledger has not written it. -/
structure Aside (line : Line) : Prop where
  placeless : line.Placeless
  foreign : line.ofLedger = false

theorem Placeless.belongsTo {line : Line} (placeless : line.Placeless) (context : Context) :
    line.BelongsTo context := by
  intro scenario index first second
  exact (placeless scenario index first second).elim

theorem atStep_belongsTo (context : Context) (severity : Severity) (message : String) :
    (atStep severity context.scenario context.index message).BelongsTo context := by
  intro scenario index first second
  simp [atStep] at first second
  exact ⟨first, second⟩

theorem atPath_placeless (severity : Severity) (path message : String) :
    (atPath severity path message).Placeless := by
  intro scenario index first
  simp [atPath] at first

theorem atPath_warning_aside (path message : String) : (atPath .warning path message).Aside :=
  ⟨atPath_placeless .warning path message, rfl⟩

end Trace.Line

open Trace (Line)

/-- The line tells the event, in its words and as severely as the event is meant.  A line of the log
may name any step. -/
inductive Event.Echoed : Event → Line → Prop where
  | passed {scenario message : String} {index : Nat} :
      Echoed (.passed scenario index message) (.atStep .info scenario index ("PASS " ++ message))
  | failed {scenario message : String} {index : Nat} :
      Echoed (.failed scenario index message) (.atStep .warning scenario index ("FAIL " ++ message))
  | timedOut {scenario message : String} {index : Nat} :
      Echoed (.timedOut scenario index message)
        (.atStep .warning scenario index ("FAIL " ++ message))
  | info {scenario text : String} {index : Nat} :
      Echoed (.log .info text) (.atStep .info scenario index text)
  | infoBar {scenario text : String} {index : Nat} :
      Echoed (.log .infoBar text) (.atStep .info scenario index text)
  | warning {scenario text : String} {index : Nat} :
      Echoed (.log .warning text) (.atStep .warning scenario index text)
  | error {scenario text : String} {index : Nat} :
      Echoed (.log .error text) (.atStep .error scenario index text)
  | captured {evidence : Evidence} :
      Echoed (.captured evidence) (.atPath .info evidence.path "captured")
  | done {passes failures timeouts : Nat} :
      Echoed (.done passes failures timeouts)
        { severity := .info
          message := "run complete"
          fields := [("passed", .number passes), ("failed", .number failures),
            ("timed_out", .number timeouts)] }

/-- Every event but the banners is told by a line of the ledger, in the same order. -/
def Event.AllEchoed (events : List Event) (lines : List Line) : Prop :=
  List.Forall₂ Echoed (events.filter fun event => !event.isBanner) (lines.filter Line.ofLedger)

theorem Event.AllEchoed.append {events events' : List Event} {lines lines' : List Line}
    (front : AllEchoed events lines) (back : AllEchoed events' lines') :
    AllEchoed (events ++ events') (lines ++ lines') := by
  unfold AllEchoed
  rw [List.filter_append, List.filter_append]
  exact List.rel_append front back

theorem Event.allEchoed_of_foreign {lines : List Line}
    (foreign : ∀ line ∈ lines, line.ofLedger = false) : AllEchoed [] lines := by
  unfold AllEchoed
  have none : lines.filter Line.ofLedger = [] := by
    rw [List.filter_eq_nil_iff]
    intro line membership
    simp [foreign line membership]
  rw [none]
  exact .nil

theorem Event.echo_echoed (position : String × Nat) (event : Event) :
    AllEchoed [event] (Ledger.echo position event).toList := by
  cases event with
  | banner => exact .nil
  | passed => exact .cons .passed .nil
  | failed => exact .cons .failed .nil
  | timedOut => exact .cons .timedOut .nil
  | log level text =>
      cases level with
      | info => exact .cons .info .nil
      | infoBar => exact .cons .infoBar .nil
      | warning => exact .cons .warning .nil
      | error => exact .cons .error .nil
  | captured => exact .cons .captured .nil
  | done => exact .cons .done .nil

theorem Event.About.belongsTo {context : Context} {event : Event} (about : event.About context) :
    ∀ line ∈ (Ledger.echo (context.scenario, context.index) event).toList,
      line.BelongsTo context := by
  intro line membership
  rw [Option.mem_toList] at membership
  cases event with
  | banner => cases membership
  | passed scenario index message | failed scenario index message
  | timedOut scenario index message =>
      obtain ⟨rfl, rfl⟩ := about _ scenario index rfl
      cases membership
      exact Line.atStep_belongsTo context _ _
  | log level text =>
      cases membership
      exact Line.atStep_belongsTo context _ _
  | captured evidence =>
      cases membership
      exact (Line.atPath_placeless _ _ _).belongsTo context
  | done =>
      cases membership
      intro scenario index first
      simp at first

namespace Occurrence

/-- The lines that an occurrence adds to the trace, by the step that the ledger is at. -/
def lines (position : String × Nat) : Occurrence → List Line
  | .recorded event => (Ledger.echo position event).toList
  | .remarked line => [line]
  | _ => []

/-- The occurrence belongs to the step of a context, which has been entered before. -/
def During (context : Context) : Occurrence → Prop
  | .entered _ _ => False
  | .recorded event => event.About context
  | .remarked line => line.Aside
  | _ => True

variable {context : Context} {occurrence : Occurrence}

theorem During.position_write (during : occurrence.During context) (ledger : Ledger) :
    (occurrence.write ledger).position = ledger.position := by
  cases occurrence with
  | entered => exact during.elim
  | recorded event =>
      simp only [write, Ledger.record, Ledger.push]
      split <;> cases event <;> rfl
  | answered | dropped | rested | remarked | noted => rfl

theorem During.trace_write (during : occurrence.During context) (ledger : Ledger) :
    (occurrence.write ledger).trace.toList =
      ledger.trace.toList ++ occurrence.lines ledger.position := by
  cases occurrence with
  | entered => exact during.elim
  | recorded event =>
      cases event <;> simp [write, lines, Ledger.record, Ledger.push, Ledger.count, Ledger.echo]
  | remarked line => simp [write, lines, Ledger.remark]
  | answered | dropped | rested | noted => simp [write, lines]

theorem During.belongsTo (during : occurrence.During context) :
    ∀ line ∈ occurrence.lines (context.scenario, context.index), line.BelongsTo context := by
  cases occurrence with
  | entered => exact during.elim
  | recorded event =>
      have about : event.About context := during
      exact about.belongsTo
  | remarked line =>
      have aside : line.Aside := during
      simpa [lines] using aside.placeless.belongsTo context
  | answered | dropped | rested | noted => simp [lines]

theorem During.echoed (during : occurrence.During context) (position : String × Nat) :
    Event.AllEchoed occurrence.event?.toList (occurrence.lines position) := by
  cases occurrence with
  | entered => exact during.elim
  | recorded event => exact Event.echo_echoed position event
  | remarked line =>
      have aside : line.Aside := during
      apply Event.allEchoed_of_foreign
      simpa [lines] using aside.foreign
  | answered | dropped | rested | noted => exact .nil

end Occurrence

/-- What has come to pass belongs to the step of a context. -/
def AllDuring (context : Context) (history : List Occurrence) : Prop :=
  ∀ occurrence ∈ history, occurrence.During context

namespace AllDuring

variable {context : Context} {history : List Occurrence}

theorem trace_writeAll (during : AllDuring context history) (ledger : Ledger) :
    (ledger.writeAll history).trace.toList =
      ledger.trace.toList ++ history.flatMap (Occurrence.lines ledger.position) := by
  induction history generalizing ledger with
  | nil => simp
  | cons occurrence rest inductionHypothesis =>
      obtain ⟨here, behind⟩ := List.forall_mem_cons.mp during
      rw [Ledger.writeAll_cons, inductionHypothesis behind, here.position_write,
        here.trace_write, List.flatMap_cons, List.append_assoc]

theorem belongsTo (during : AllDuring context history) :
    ∀ line ∈ history.flatMap (Occurrence.lines (context.scenario, context.index)),
      line.BelongsTo context := by
  intro line membership
  obtain ⟨occurrence, inside, told⟩ := List.mem_flatMap.mp membership
  exact (during occurrence inside).belongsTo line told

theorem echoed (during : AllDuring context history) (position : String × Nat) :
    Event.AllEchoed (history.filterMap Occurrence.event?)
      (history.flatMap (Occurrence.lines position)) := by
  induction history with
  | nil => exact .nil
  | cons occurrence rest inductionHypothesis =>
      obtain ⟨here, behind⟩ := List.forall_mem_cons.mp during
      have front := (here.echoed position).append (inductionHypothesis behind)
      have split : (occurrence :: rest).filterMap Occurrence.event? =
          occurrence.event?.toList ++ rest.filterMap Occurrence.event? := by
        rw [List.filterMap_cons]
        cases occurrence.event? <;> rfl
      rw [split, List.flatMap_cons]
      exact front

end AllDuring

variable {config : Config} {context : Context} {history : List Occurrence}

theorem Program.leaves_during (program : Program) (context : Context) :
    program.Leaves (Occurrence.During context) context := by
  induction program with
  | done | fail => trivial
  | signal passed message _ inductionHypothesis =>
      exact ⟨Event.about_ofSignal context passed message, inductionHypothesis⟩
  | log _ _ _ inductionHypothesis =>
      exact ⟨Event.about_of_silent rfl context, inductionHypothesis⟩
  | sleep _ _ inductionHypothesis | note _ _ _ inductionHypothesis =>
      exact ⟨trivial, inductionHypothesis⟩
  | call _ _ inductionHypothesis => exact fun reply => ⟨fun _ => trivial, inductionHypothesis reply⟩
  | signalled _ inductionHypothesis => exact inductionHypothesis

theorem Step.leaves_during (config : Config) (context : Context) (step : Step) :
    step.Leaves (Occurrence.During context) config context where
  tells _ about := about
  work _ _ := Program.leaves_during _ context

theorem World.metLine_aside (condition : Condition) (elapsed : Nat) :
    (metLine condition elapsed).Aside := by
  refine ⟨?_, rfl⟩
  intro scenario index first
  simp [metLine] at first

theorem World.waitRemark_during (condition : Condition) (elapsed : Nat) (ending : WaitEnd)
    (context : Context) : AllDuring context (waitRemark condition elapsed ending) := by
  cases ending with
  | met => exact List.forall_mem_singleton.mpr (metLine_aside condition elapsed)
  | failed | elapsed => exact List.forall_mem_nil _

theorem Evidence.Pictured.during {evidence : Evidence} (pictured : evidence.Pictured history)
    (context : Context) : AllDuring context history := by
  cases pictured with
  | captured =>
      exact List.forall_mem_cons.mpr ⟨trivial,
        List.forall_mem_singleton.mpr (Event.about_of_silent rfl context)⟩
  | refused =>
      exact List.forall_mem_cons.mpr ⟨trivial, List.forall_mem_cons.mpr
        ⟨Line.atPath_warning_aside _ _,
          List.forall_mem_singleton.mpr (Event.about_of_silent rfl context)⟩⟩

/-- Once a step has been entered, all that comes to pass belongs to it. -/
theorem Step.Unrolls.during {step : Step} {outcome : Option Outcome}
    (unrolls : step.Unrolls config context history outcome) :
    ∃ behind, history = .entered context.scenario context.index :: behind ∧
      AllDuring context behind := by
  refine (step.leaves_during config context).unrolls ?_
    (fun _ pictured => pictured.during context) unrolls
  intro condition waiting ending elapsed _ awaits
  rw [List.forall_mem_append]
  exact ⟨awaits.forall_mem (fun _ _ => trivial) (fun _ => trivial) fun _ => trivial,
    World.waitRemark_during condition elapsed ending context⟩

namespace World

variable {σ : Type} (engine : Engine σ)

/-- What has been recorded between two worlds is told by the lines that have come to the trace. -/
structure Tells (world after : World σ) (lines : List Line) : Prop where
  trace : after.ledger.trace.toList = world.ledger.trace.toList ++ lines
  echoed : ∃ events,
    after.ledger.events.toList = world.ledger.events.toList ++ events ∧
      Event.AllEchoed events lines

/-- The lines that each step of a pipeline adds to the trace while it is run. -/
inductive Traces (engine : Engine σ) (config : Config) :
    List Scheduled → World σ → List (List Line) → Prop where
  | nil {world : World σ} : Traces engine config [] world []
  | cons {item : Scheduled} {rest : List Scheduled} {world : World σ} {lines : List Line}
      {blocks : List (List Line)} :
      (world.execute engine config item.context item.step).2.ledger.trace.toList =
        world.ledger.trace.toList ++ lines →
      Traces engine config rest (world.execute engine config item.context item.step).2 blocks →
      Traces engine config (item :: rest) world (lines :: blocks)

section

variable {engine} {world middle after : World σ} {front back : List Line}

theorem Tells.refl (world : World σ) : world.Tells world [] :=
  ⟨(List.append_nil _).symm, [], (List.append_nil _).symm, .nil⟩

theorem Tells.append (first : world.Tells middle front) (second : middle.Tells after back) :
    world.Tells after (front ++ back) := by
  obtain ⟨trace, events, grown, echoed⟩ := first
  obtain ⟨trace', events', grown', echoed'⟩ := second
  refine ⟨?_, events ++ events', ?_, echoed.append echoed'⟩
  · rw [trace', trace, List.append_assoc]
  · rw [grown', grown, List.append_assoc]

theorem tells_tell {lines : Array Line} (foreign : ∀ line ∈ lines.toList, line.ofLedger = false)
    (world : World σ) : world.Tells (world.tell lines) lines.toList := by
  refine ⟨?_, [], ?_, Event.allEchoed_of_foreign foreign⟩
  · simp [tell, write]
  · simp [tell, write]

theorem tells_close (world : World σ) :
    ∃ lines, world.Tells (world.write Ledger.close) lines ∧ ∀ line ∈ lines, line.Placeless := by
  refine ⟨(Ledger.echo world.ledger.position (.done world.ledger.passed world.ledger.failed
    world.ledger.timedOut)).toList, ⟨?_, _, ?_, Event.echo_echoed world.ledger.position _⟩, ?_⟩
  · simp [write, Ledger.close, Ledger.push, Ledger.echo]
  · simp [write, Ledger.close_eq_record]
  · intro line membership scenario index first
    obtain rfl := List.mem_singleton.mp membership
    simp at first

end

theorem tells_execute (config : Config) (item : Scheduled) (world : World σ) :
    ∃ lines,
      world.Tells (world.execute engine config item.context item.step).2 lines ∧
      ∀ line ∈ lines, line.BelongsTo item.context := by
  obtain ⟨history, unrolls, unfolds⟩ :=
    execute_unfolds engine config item.context item.step world
  obtain ⟨behind, rfl, during⟩ := unrolls.during
  -- The ledger has been moved to the step before anything is told.
  have ledger := unfolds.ledger
  rw [Ledger.writeAll_cons] at ledger
  refine ⟨_, ⟨?_, behind.filterMap Occurrence.event?, ?_, during.echoed _⟩, during.belongsTo⟩
  · rw [ledger, during.trace_writeAll]
    rfl
  · exact unfolds.events

/-- Each step of a pipeline adds lines to the trace that are its own. -/
theorem tells_runSteps (config : Config) (pipeline : List Scheduled) (world : World σ) :
    ∃ blocks,
      Traces engine config pipeline world blocks ∧
      world.Tells (world.runSteps engine config pipeline) blocks.flatten ∧
      List.Forall₂ (fun item lines => ∀ line ∈ lines, line.BelongsTo item.context) pipeline
        blocks := by
  induction pipeline generalizing world with
  | nil => exact ⟨[], .nil, .refl world, .nil⟩
  | cons item rest inductionHypothesis =>
      obtain ⟨lines, tells, own⟩ := tells_execute engine config item world
      obtain ⟨blocks, traces, told, others⟩ :=
        inductionHypothesis (world.execute engine config item.context item.step).2
      exact ⟨lines :: blocks, .cons tells.trace traces, tells.append told, .cons own others⟩

theorem tells_shutDown (world : World σ) :
    ∃ lines, world.Tells (world.shutDown engine) lines ∧ ∀ line ∈ lines, line.Placeless := by
  have called : world.Tells (world.call engine .finish).2 [] := by
    refine ⟨?_, [], ?_, .nil⟩
    · simp [call, complete, begin]
    · simp [call, complete, begin]
  unfold shutDown
  split
  next closes =>
    split
    next reply after asked =>
      rw [asked] at called
      exact ⟨[], called, List.forall_mem_nil _⟩
    next error after asked =>
      rw [asked] at called
      refine ⟨_, called.append (tells_tell ?_ after), ?_⟩
      · simp [Line.ofLedger]
      · simp [Line.Placeless]
  next => exact ⟨[], .refl world, List.forall_mem_nil _⟩

/-- How the trace goes on from the world in which the first step of a run begins.  Each step tells
its own lines, which name no other step; the lines behind the last step name none.  The lines that
the ledger writes tell what is in the timeline, but for the banners. -/
def Attributed (engine : Engine σ) (config : Config) (pipeline : List Scheduled)
    (begun after : World σ) : Prop :=
  ∃ blocks closing,
    Traces engine config pipeline begun blocks ∧
    after.ledger.trace.toList = begun.ledger.trace.toList ++ (blocks.flatten ++ closing) ∧
    List.Forall₂ (fun item lines => ∀ line ∈ lines, line.BelongsTo item.context) pipeline blocks ∧
    (∀ line ∈ closing, line.Placeless) ∧
    ∀ time, Event.AllEchoed (after.report time).events (blocks.flatten ++ closing)

theorem drive_attributed (config : Config) (suite : Suite) {started : World σ}
    (unrecorded : started.ledger.events.toList = []) :
    Attributed engine config suite.pipeline (started.tell #[runningLine suite])
      (started.drive engine config suite) := by
  obtain ⟨blocks, traces, told, own⟩ :=
    tells_runSteps engine config suite.pipeline (started.tell #[runningLine suite])
  obtain ⟨parting, parted, placeless⟩ := tells_shutDown engine
    (runSteps engine config suite.pipeline (started.tell #[runningLine suite]))
  obtain ⟨counts, closed, countless⟩ := tells_close
    ((runSteps engine config suite.pipeline (started.tell #[runningLine suite])).shutDown engine)
  obtain ⟨trace, events, grown, echoed⟩ := told.append (parted.append closed)
  have unsaid : (started.tell #[runningLine suite]).ledger.events.toList = [] := unrecorded
  rw [unsaid, List.nil_append] at grown
  refine ⟨blocks, parting ++ counts, traces, trace, own,
    List.forall_mem_append.mpr ⟨placeless, countless⟩, ?_⟩
  intro time
  rw [World.report, Ledger.events_report]
  unfold drive
  rw [grown]
  exact echoed

/-- How the trace of a run goes, from its first line to its last. -/
structure Traced (engine : Engine σ) (config : Config) (entryUrl : String) (suite : Suite)
    (world : World σ) : Prop where
  /-- If the engine does not start, there is no line about a step. -/
  refused : ∀ error, engine.Refuses entryUrl error world.state →
    ∃ after,
      world.run engine config entryUrl suite = (.error (.engine error), after) ∧
      after.ledger.trace.toList = suite.trace.toList ++ [startingLine entryUrl] ∧
      after.ledger.events = #[]
  completed : engine.Starts entryUrl world.state →
    ∃ begun after,
      begun =
        ((world.tell suite.trace).started engine entryUrl).tell #[runningLine suite] ∧
      begun.ledger.trace.toList =
        suite.trace.toList ++ [startingLine entryUrl, runningLine suite] ∧
      world.run engine config entryUrl suite = (.ok (), after) ∧
      Attributed engine config suite.pipeline begun after
  /-- The same of scenarios that are defined once the engine has started. -/
  defined : engine.Starts entryUrl world.state →
    ∀ define, define .empty = (.ok (), suite) →
    ∃ begun after,
      begun =
        ((world.started engine entryUrl).tell suite.trace).tell #[runningLine suite] ∧
      begun.ledger.trace.toList =
        startingLine entryUrl :: (suite.trace.toList ++ [runningLine suite]) ∧
      world.runDefined engine config entryUrl define = (.ok (), after) ∧
      Attributed engine config suite.pipeline begun after
  /-- The first lines of a run are about no step, and the ledger has not written them. -/
  opening : (startingLine entryUrl).Aside ∧ (runningLine suite).Aside

theorem trace_started (entryUrl : String) (world : World σ) :
    (world.started engine entryUrl).ledger.trace.toList =
      world.ledger.trace.toList ++ [startingLine entryUrl] := by
  simp [started, call, complete, begin, tell, write]

/-- Whatever the engine answers and whatever the steps do, a line of the trace that names a step
names the one that is being run, and the timeline is told in the trace, event by event. -/
theorem fresh_traced (config : Config) (entryUrl : String) (suite : Suite) (state : σ)
    (clock : Nat) (notebook : Notebook) :
    (fresh state clock notebook).Traced engine config entryUrl suite where
  refused error refuses := by
    refine ⟨_, run_of_refuses refuses, ?_, rfl⟩
    rw [trace_started]
    simp [tell, write, fresh, initial, Ledger.empty]
  completed starts := by
    refine ⟨_, _, rfl, ?_, run_of_starts starts, drive_attributed engine config suite rfl⟩
    have begun := trace_started engine entryUrl ((fresh state clock notebook).tell suite.trace)
    simp only [tell, write, Array.toList_append] at begun ⊢
    rw [begun]
    simp [fresh, initial, Ledger.empty]
  defined starts define defines := by
    refine ⟨_, _, rfl, ?_, runDefined_of_starts starts defines,
      drive_attributed engine config suite rfl⟩
    have begun := trace_started engine entryUrl (fresh state clock notebook)
    simp only [tell, write, Array.toList_append]
    rw [begun]
    simp [fresh, initial, Ledger.empty]
  opening := by
    refine ⟨⟨?_, rfl⟩, ?_, rfl⟩
    · intro scenario index first
      simp [startingLine] at first
    · intro scenario index _ second
      simp [runningLine] at second

end World

end Rehearsal

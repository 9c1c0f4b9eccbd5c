import Rehearsal.Proofs.Run.Capturing
import Rehearsal.Proofs.Run.Duration

/-!
What the timeout of the settings has to do with a run.

Only a wait for a selector, a text or something visible ever asks for the timeout, and it makes no
difference to a wait that is over before.  So two runs under settings that differ in nothing else go
the same way until such a wait outlasts the shorter timeout of the two.
-/

namespace Rehearsal

namespace Config

/-- The settings with another timeout. -/
def withTimeout (timeoutMs : Nat) (config : Config) : Config :=
  { config with timeoutMs }

@[simp]
theorem pollIntervalMs_withTimeout (timeoutMs : Nat) (config : Config) :
    (config.withTimeout timeoutMs).pollIntervalMs = config.pollIntervalMs := rfl

end Config

/-- It is for the settings to say how long a wait for the condition may take. -/
def Condition.Bounded : Condition → Prop
  | .url _ => False
  | _ => True

theorem Condition.bound_withTimeout {condition : Condition} (bounded : condition.Bounded)
    (timeoutMs : Nat) (config : Config) :
    condition.bound (config.withTimeout timeoutMs) = timeoutMs := by
  cases condition with
  | url => exact bounded.elim
  | selector | text | visible => rfl

theorem Condition.bound_of_not_bounded {condition : Condition} (unbounded : ¬condition.Bounded)
    (config other : Config) : condition.bound config = condition.bound other := by
  cases condition with
  | url => rfl
  | selector | text | visible => exact (unbounded trivial).elim

namespace World

variable {σ : Type} {engine : Engine σ} {world next after : World σ} {history : List Occurrence}

/-- The second world is no sooner than the first, and what has been called for in between has been
called for no sooner either. -/
structure Precedes (world after : World σ) : Prop where
  clock : world.clock ≤ after.clock
  calls : ∃ later, after.calls.toList = world.calls.toList ++ later ∧
    ∀ asked ∈ later, world.clock ≤ asked.1

theorem Precedes.refl (world : World σ) : world.Precedes world :=
  ⟨Nat.le_refl _, [], by simp, by simp⟩

theorem Precedes.trans (front : world.Precedes next) (back : next.Precedes after) :
    world.Precedes after := by
  obtain ⟨former, asked, inTime⟩ := front.calls
  obtain ⟨latter, askedNext, inTimeNext⟩ := back.calls
  refine ⟨Nat.le_trans front.clock back.clock, former ++ latter, ?_, ?_⟩
  · rw [askedNext, asked, List.append_assoc]
  · rw [List.forall_mem_append]
    constructor
    · exact inTime
    · intro call membership
      exact Nat.le_trans front.clock (inTimeNext call membership)

theorem Undergoes.precedes {occurrence : Occurrence}
    (undergone : world.Undergoes engine occurrence after) : world.Precedes after := by
  have clock : world.clock ≤ after.clock := by
    rw [undergone.clock]
    exact Nat.le_add_right _ _
  cases undergone with
  | answered call =>
      exact ⟨clock, [(world.clock, call)], by simp [World.call, complete, begin], by simp⟩
  | dropped call =>
      exact ⟨clock, [(world.clock, call)], by simp [begin], by simp⟩
  | rested | entered | recorded | remarked | noted =>
      exact ⟨clock, [], by simp [write], by simp⟩

theorem Unfolds.precedes (unfolds : world.Unfolds engine history after) : world.Precedes after := by
  induction unfolds with
  | done world => exact .refl world
  | step undergone _ inductionHypothesis => exact undergone.precedes.trans inductionHypothesis

/-- A wait goes on from the first world to the second: the engine may have been probed in between,
but nothing has been recorded and nothing noted down. -/
structure Outlasts (world after : World σ) : Prop extends Precedes world after where
  events : after.ledger.events = world.ledger.events
  notebook : after.notebook = world.notebook

theorem Outlasts.trans (front : world.Outlasts next) (back : next.Outlasts after) :
    world.Outlasts after :=
  ⟨front.toPrecedes.trans back.toPrecedes, back.events.trans front.events,
    back.notebook.trans front.notebook⟩

theorem outlasts_later {instant : Nat} (le : world.clock ≤ instant) :
    world.Outlasts { world with clock := instant } :=
  ⟨⟨le, [], by simp, by simp⟩, rfl, rfl⟩

theorem Outlasts.remark (outlasts : world.Outlasts after) (line : Trace.Line) :
    world.Outlasts (after.write (Ledger.remark line)) :=
  ⟨⟨outlasts.clock, outlasts.calls⟩, outlasts.events, outlasts.notebook⟩

section

variable {condition : Condition} {interval deadline later fuel more : Nat}

theorem poll_outlasts (inTime : world.clock ≤ deadline)
    (enough : 0 < interval → deadline < world.clock + fuel) :
    world.Outlasts (world.poll engine condition interval deadline fuel).2 := by
  obtain ⟨history, awaits, unfolds⟩ :=
    poll_unfolds engine condition interval deadline fuel world inTime enough
  refine ⟨unfolds.precedes, ?_, ?_⟩
  · apply Array.toList_inj.mp
    rw [unfolds.events, awaits.events, List.append_nil]
  · rw [unfolds.notebook, awaits.notes]
    rfl

/-- An answer that comes behind a deadline does not come before it. -/
theorem Answers.outlasts {call : Call} {reply : Except EngineError call.Reply}
    (answers : Answers engine call later reply world after) (late : deadline ≤ after.clock) :
    Outlasts { world.begin engine call with clock := deadline } after := by
  have answered := answers.called
  unfold World.call complete at answered
  obtain ⟨rfl, rfl⟩ := Prod.mk.inj answered
  exact ⟨⟨late, [], by simp, by simp⟩, rfl, rfl⟩

/-- How a wait goes that has more time than another one: the same way, or on from where time has
run out for the other, at its deadline. -/
inductive Prolongs (deadline : Nat) : WaitEnd × World σ → WaitEnd × World σ → Prop where
  | same {ending : WaitEnd} {after : World σ} :
      ending ≠ .elapsed → Prolongs deadline (ending, after) (ending, after)
  | longer {ending : WaitEnd} {parting after : World σ} :
      parting.clock = deadline → parting.Outlasts after →
      Prolongs deadline (.elapsed, parting) (ending, after)

theorem Prolongs.outlasts {brief patient : WaitEnd × World σ}
    (prolongs : Prolongs deadline brief patient) (elapsed : brief.1 = .elapsed) :
    brief.2.clock = deadline ∧ brief.2.Outlasts patient.2 := by
  cases prolongs with
  | same unelapsed => exact (unelapsed elapsed).elim
  | longer clock outlasts => exact ⟨clock, outlasts⟩

/-- A probe that is late for one deadline may still be answered before another. -/
theorem poll_outlasts_of_late
    (late : engine.silent condition.probe (engine.accept condition.probe world.state) = true ∨
      deadline < world.clock +
        engine.delay condition.probe (engine.accept condition.probe world.state))
    (le : deadline ≤ later) (ample : 0 < interval → later < world.clock + (more + 1)) :
    Outlasts { world.begin engine condition.probe with clock := deadline }
      (world.poll engine condition interval later (more + 1)).2 := by
  have heard : ∀ {reply : Except EngineError condition.probe.Reply} {after : World σ},
      Answers engine condition.probe later reply world after → deadline ≤ after.clock := by
    intro reply after answers
    rw [answers.clock]
    rcases late with silent | slow
    · rw [answers.heard] at silent
      cases silent
    · exact Nat.le_of_lt slow
  have probes := poll_probes engine condition interval later more world
  generalize world.poll engine condition interval later (more + 1) = polled at probes
  cases probes with
  | late => exact outlasts_later le
  | failed answers | met answers => exact answers.outlasts (heard answers)
  | elapsed answers =>
      exact (answers.outlasts (heard answers)).trans (outlasts_later answers.timely)
  | again answers _ early =>
      have clock := answers.clock
      exact (answers.outlasts (heard answers)).trans
        ((outlasts_later (Nat.le_add_right _ _)).trans
          (poll_outlasts early (by simp only; omega)))

/-- Polling with a later deadline. -/
theorem poll_prolongs (le : deadline ≤ later) (inTime : world.clock ≤ deadline)
    (enough : deadline < world.clock + fuel) (ample : later < world.clock + more)
    (positive : 0 < interval) :
    Prolongs deadline (world.poll engine condition interval deadline fuel)
      (world.poll engine condition interval later more) := by
  induction fuel generalizing world more with
  | zero => omega
  | succ fuel inductionHypothesis =>
      obtain ⟨more, rfl⟩ : ∃ fewer, more = fewer + 1 := ⟨more - 1, by omega⟩
      have probes := poll_probes engine condition interval deadline fuel world
      generalize world.poll engine condition interval deadline (fuel + 1) = polled at probes
      cases probes with
      | late late => exact .longer rfl (poll_outlasts_of_late late le fun _ => ample)
      | failed answers =>
          rw [poll_of_answers (answers.later le)]
          exact .same (by simp)
      | met answers holds =>
          simp only [poll_of_answers (answers.later le), holds, if_true]
          exact .same (by simp)
      | @elapsed found after answers vain late =>
          simp only [poll_of_answers (answers.later le), vain, Bool.false_eq_true, if_false]
          split
          · have waited : Outlasts { after with clock := deadline } { after with clock := later } :=
              outlasts_later le
            exact .longer rfl waited
          next early =>
            have rested : Outlasts { after with clock := deadline }
                { after with clock := after.clock + interval } :=
              outlasts_later (Nat.le_of_lt late)
            have clock := answers.clock
            exact .longer rfl (rested.trans
              (poll_outlasts (Nat.le_of_not_lt early) (by simp only; omega)))
      | @again found after answers vain early =>
          simp only [poll_of_answers (answers.later le), vain, Bool.false_eq_true, if_false]
          rw [if_neg (by omega)]
          have clock := answers.clock
          exact inductionHypothesis early (by simp only; omega) (by simp only; omega)

end

section

variable {config : Config} {condition : Condition} {timeoutMs longerMs : Nat}

/-- A wait that is bounded by the settings, with more time. -/
theorem await_prolongs (bounded : condition.Bounded) (le : timeoutMs ≤ longerMs)
    (positive : 0 < config.pollIntervalMs) (engine : Engine σ) (world : World σ) :
    Prolongs (world.clock + timeoutMs)
      (world.await engine (config.withTimeout timeoutMs) condition)
      (world.await engine (config.withTimeout longerMs) condition) := by
  have polls : Prolongs (world.clock + timeoutMs)
      (world.poll engine condition config.pollIntervalMs (world.clock + timeoutMs) (timeoutMs + 1))
      (world.poll engine condition config.pollIntervalMs (world.clock + longerMs)
        (longerMs + 1)) :=
    poll_prolongs (by omega) (by omega) (by omega) (by omega) positive
  simp only [await, condition.bound_withTimeout bounded, Config.pollIntervalMs_withTimeout]
  generalize poll engine condition _ _ (timeoutMs + 1) world = brief at polls ⊢
  generalize poll engine condition _ _ (longerMs + 1) world = patient at polls ⊢
  cases polls with
  | @same ending after unelapsed =>
      cases ending with
      | met | failed => exact .same (by simp)
      | elapsed => exact (unelapsed rfl).elim
  | @longer ending parting after clock outlasts =>
      cases ending with
      | met => exact .longer clock (outlasts.remark _)
      | failed | elapsed => exact .longer clock outlasts

theorem await_of_not_bounded (unbounded : ¬condition.Bounded) (engine : Engine σ)
    (world : World σ) :
    world.await engine (config.withTimeout longerMs) condition =
      world.await engine (config.withTimeout timeoutMs) condition := by
  simp only [await, condition.bound_of_not_bounded unbounded (config.withTimeout longerMs)
    (config.withTimeout timeoutMs), Config.pollIntervalMs_withTimeout]

end

end World

/-- The step does its work whatever the timeout is. -/
def Step.Heedless (step : Step) : Prop :=
  step.strategy ≠ .banner → ∀ callback, step.callback = some callback → ∀ (cue : Cue) timeoutMs,
    callback { cue with config := cue.config.withTimeout timeoutMs } = callback cue

theorem Step.BuiltIn.heedless {step : Step} (builtIn : step.BuiltIn) : step.Heedless := by
  intro speaks callback held cue timeoutMs
  obtain banner | ⟨action, builtIn, does⟩ := builtIn
  · exact (speaks banner).elim
  rw [does.callback] at held
  cases builtIn with
  | am | reached | find | findTheVisible | see | canSee => cases held
  | fill | click | clickTheLabel | goTo | shouldNotSee | cannotFindThe | seeTheValueOf | noteDown =>
      cases held
      rfl

namespace World

variable {σ : Type} (engine : Engine σ) {config : Config} {context : Context} {step : Step}
  {condition : Condition} {timeoutMs longerMs : Nat}

theorem perform_withTimeout (heedless : step.Heedless) (speaks : step.strategy ≠ .banner)
    (world : World σ) :
    world.perform engine (config.withTimeout timeoutMs) context step =
      world.perform engine config context step := by
  unfold perform
  cases held : step.callback with
  | none => rfl
  | some callback =>
      have same := heedless speaks callback held
        { context, message := step.message, config } timeoutMs
      simp only [same]

theorem proceed_withTimeout (heedless : step.Heedless) (speaks : step.strategy ≠ .banner)
    (world : World σ) :
    world.proceed engine (config.withTimeout timeoutMs) context step =
      world.proceed engine config context step := by
  simp only [proceed, perform_withTimeout engine heedless speaks]

theorem act_withTimeout (heedless : step.Heedless) (speaks : step.strategy ≠ .banner)
    (world : World σ) :
    world.act engine (config.withTimeout timeoutMs) context step =
      world.act engine config context step := by
  simp only [act, perform_withTimeout engine heedless speaks]

theorem waitAndProceed_withTimeout (heedless : step.Heedless) (speaks : step.strategy ≠ .banner)
    {world : World σ}
    (same : world.await engine (config.withTimeout longerMs) condition =
      world.await engine (config.withTimeout timeoutMs) condition) :
    world.waitAndProceed engine (config.withTimeout longerMs) context step condition =
      world.waitAndProceed engine (config.withTimeout timeoutMs) context step condition := by
  simp only [waitAndProceed, same, proceed_withTimeout engine heedless speaks]

end World

/-- A step is entered, and nothing has come of it yet. -/
def World.entering {σ : Type} (item : Scheduled) (world : World σ) : World σ :=
  world.write (Ledger.enter item.context.scenario item.context.index)

namespace Scheduled

variable {σ : Type}

/-- The wait of the step runs out, and it is the settings that bound it. -/
def Stalls (engine : Engine σ) (config : Config) (item : Scheduled) (world : World σ) : Prop :=
  ∃ condition, item.step.strategy = .wait condition ∧ condition.Bounded ∧
    ((world.entering item).await engine config condition).1 = .elapsed

/-- No step stalls on the way through a pipeline. -/
def Unstalled (engine : Engine σ) (config : Config) : List Scheduled → World σ → Prop
  | [], _ => True
  | item :: rest, world =>
      ¬item.Stalls engine config world ∧
        Unstalled engine config rest (world.execute engine config item.context item.step).2

end Scheduled

namespace World

variable {σ : Type} {engine : Engine σ} {config : Config} {item : Scheduled}
  {timeoutMs longerMs : Nat} {world : World σ}

/-- A step that does not stall makes nothing of more time. -/
theorem execute_of_not_stalls (heedless : item.step.Heedless) (le : timeoutMs ≤ longerMs)
    (positive : 0 < config.pollIntervalMs)
    (smooth : ¬item.Stalls engine (config.withTimeout timeoutMs) world) :
    world.execute engine (config.withTimeout longerMs) item.context item.step =
      world.execute engine (config.withTimeout timeoutMs) item.context item.step := by
  unfold execute
  cases strategy : item.step.strategy with
  | banner => rfl
  | immediate =>
      have speaks : item.step.strategy ≠ .banner := by simp [strategy]
      simp only [act_withTimeout engine heedless speaks]
      rfl
  | wait condition =>
      have speaks : item.step.strategy ≠ .banner := by simp [strategy]
      have awaited : (world.entering item).await engine (config.withTimeout longerMs) condition =
          (world.entering item).await engine (config.withTimeout timeoutMs) condition := by
        by_cases bounded : condition.Bounded
        · have prolongs := await_prolongs bounded le positive engine (world.entering item)
          have met := fun elapsed => smooth ⟨condition, strategy, bounded, elapsed⟩
          generalize await engine (config.withTimeout longerMs) _ _ = patient at prolongs ⊢
          generalize await engine (config.withTimeout timeoutMs) _ _ = brief at prolongs met ⊢
          cases prolongs with
          | same => rfl
          | longer => exact (met rfl).elim
        · exact await_of_not_bounded bounded engine _
      unfold entering at awaited
      simp only [waitAndProceed_withTimeout engine heedless speaks awaited]
      rfl

/-- Nor do steps behind one another if none of them stalls. -/
theorem runSteps_of_unstalled {pipeline : List Scheduled}
    (heedless : ∀ item ∈ pipeline, item.step.Heedless) (le : timeoutMs ≤ longerMs)
    (positive : 0 < config.pollIntervalMs)
    (unstalled : Scheduled.Unstalled engine (config.withTimeout timeoutMs) pipeline world) :
    world.runSteps engine (config.withTimeout longerMs) pipeline =
      world.runSteps engine (config.withTimeout timeoutMs) pipeline := by
  induction pipeline generalizing world with
  | nil => rfl
  | cons item rest inductionHypothesis =>
      obtain ⟨first, others⟩ := List.forall_mem_cons.mp heedless
      obtain ⟨smooth, onwards⟩ := unstalled
      rw [runSteps, runSteps, execute_of_not_stalls first le positive smooth]
      exact inductionHypothesis others onwards

/-- Either no step stalls, or one is the first to do so. -/
theorem unstalled_or_exists_first (engine : Engine σ) (config : Config)
    (pipeline : List Scheduled) (world : World σ) :
    Scheduled.Unstalled engine config pipeline world ∨
      ∃ front item rest, pipeline = front ++ item :: rest ∧
        Scheduled.Unstalled engine config front world ∧
        item.Stalls engine config (world.runSteps engine config front) := by
  induction pipeline generalizing world with
  | nil => exact .inl trivial
  | cons item rest inductionHypothesis =>
      by_cases stalls : item.Stalls engine config world
      · exact .inr ⟨[], item, rest, rfl, trivial, stalls⟩
      · rcases inductionHypothesis (world.execute engine config item.context item.step).2 with
          unstalled | ⟨front, stalled, behind, rfl, unstalled, stops⟩
        · exact .inl ⟨stalls, unstalled⟩
        · exact .inr ⟨item :: front, stalled, behind, rfl, ⟨stalls, unstalled⟩, stops⟩

theorem runSteps_append (engine : Engine σ) (config : Config) (front back : List Scheduled)
    (world : World σ) :
    world.runSteps engine config (front ++ back) =
      (world.runSteps engine config front).runSteps engine config back := by
  induction front generalizing world with
  | nil => rfl
  | cons item front inductionHypothesis => exact inductionHypothesis _

/-- A run that has come as far as `parting`, where a wait may or may not go on, and on from there.
What it calls for and what it records behind that world comes no sooner. -/
structure Continues (engine : Engine σ) (parting after : World σ) : Prop where
  calls : ∃ later, after.calls.toList = parting.calls.toList ++ later ∧
    ∀ asked ∈ later, parting.clock ≤ asked.1
  events : ∃ later, after.ledger.events.toList = parting.ledger.events.toList ++ later
  recorded : ∃ ended history, parting.Outlasts ended ∧ ended.Unfolds engine history after

theorem Outlasts.continues {parting ended after : World σ} {history : List Occurrence}
    (outlasts : parting.Outlasts ended) (unfolds : ended.Unfolds engine history after) :
    parting.Continues engine after where
  calls := (outlasts.toPrecedes.trans unfolds.precedes).calls
  events := by
    have events := unfolds.events
    rw [outlasts.events] at events
    exact ⟨_, events⟩
  recorded := ⟨ended, history, outlasts, unfolds⟩

/-- The world behind a run whose steps, or the rest of them, are these. -/
def closed (engine : Engine σ) (config : Config) (pipeline : List Scheduled) (world : World σ) :
    World σ :=
  ((world.runSteps engine config pipeline).shutDown engine).write Ledger.close

theorem closed_unfolds (engine : Engine σ) (config : Config) (pipeline : List Scheduled)
    (world : World σ) :
    ∃ history, world.Unfolds engine history (world.closed engine config pipeline) := by
  obtain ⟨histories, -, gone⟩ :=
    runSteps_unfolds engine config pipeline world
  obtain ⟨parted, ended, -⟩ := shutDown_unfolds engine (world.runSteps engine config pipeline)
  obtain ⟨passes, failures, timeouts, closed⟩ :=
    close_unfolds engine ((world.runSteps engine config pipeline).shutDown engine)
  exact ⟨_, gone.append (ended.append closed)⟩

/-- Behind a wait that has run out with less time, a step goes on no sooner. -/
theorem execute_of_stalls {condition : Condition} (waits : item.step.strategy = .wait condition)
    (bounded : condition.Bounded) (le : timeoutMs ≤ longerMs)
    (positive : 0 < config.pollIntervalMs) {parting : World σ}
    (stalls : (world.entering item).await engine (config.withTimeout timeoutMs) condition =
      (.elapsed, parting)) :
    parting.clock = world.clock + timeoutMs ∧ ∃ ended history, parting.Outlasts ended ∧
      ended.Unfolds engine history
        (world.execute engine (config.withTimeout longerMs) item.context item.step).2 := by
  have prolongs := await_prolongs bounded le positive engine (world.entering item)
  rw [stalls] at prolongs
  obtain ⟨clock, outlasts⟩ := prolongs.outlasts rfl
  obtain ⟨rest, -, gone⟩ :=
    waitAndProceed_follows engine (config.withTimeout longerMs) item.context item.step waits
      (world.entering item)
  obtain ⟨picture, -, taken⟩ :=
    capture_unfolds engine (config.withTimeout longerMs) item.context item.step.message
      ((world.entering item).waitAndProceed engine (config.withTimeout longerMs) item.context
        item.step condition).2
  simp only [execute, waits]
  exact ⟨clock, _, _, outlasts, gone.append taken⟩

/-- A step of a pipeline at which a run may stop for a while. -/
structure Stop (σ : Type) where
  front : List Scheduled
  item : Scheduled
  rest : List Scheduled
  condition : Condition
  /-- The world in which the run comes to the step that waits. -/
  reached : World σ
  /-- The world in which the wait has lasted as long as the shorter timeout. -/
  parting : World σ

/-- Two runs of a pipeline, under settings that differ in the timeout, part at the first wait that
outlasts the shorter of the two. -/
structure Parts (engine : Engine σ) (config : Config) (timeoutMs otherMs : Nat)
    (pipeline : List Scheduled) (begun after after' : World σ) (stop : Stop σ) : Prop where
  split : pipeline = stop.front ++ stop.item :: stop.rest
  waits : stop.item.step.strategy = .wait stop.condition
  bounded : stop.condition.Bounded
  /-- No such wait has outlasted the shorter timeout before. -/
  unstalled : Scheduled.Unstalled engine (config.withTimeout (min timeoutMs otherMs)) stop.front
    begun
  comes : begun.runSteps engine (config.withTimeout timeoutMs) stop.front = stop.reached
  comes' : begun.runSteps engine (config.withTimeout otherMs) stop.front = stop.reached
  stalls : (stop.reached.entering stop.item).await engine
    (config.withTimeout (min timeoutMs otherMs)) stop.condition = (.elapsed, stop.parting)
  clock : stop.parting.clock = stop.reached.clock + min timeoutMs otherMs
  continues : stop.parting.Continues engine after
  continues' : stop.parting.Continues engine after'

/-- A run goes on behind the wait at which it may part from another. -/
theorem closed_continues {condition : Condition} {front : List Scheduled}
    {begun reached parting : World σ} (waits : item.step.strategy = .wait condition)
    (bounded : condition.Bounded) (le : timeoutMs ≤ longerMs)
    (positive : 0 < config.pollIntervalMs)
    (comes : begun.runSteps engine (config.withTimeout longerMs) front = reached)
    (stalls : (reached.entering item).await engine (config.withTimeout timeoutMs) condition =
      (.elapsed, parting))
    (rest : List Scheduled) :
    parting.Continues engine
      (begun.closed engine (config.withTimeout longerMs) (front ++ item :: rest)) := by
  obtain ⟨-, ended, history, outlasts, gone⟩ := execute_of_stalls waits bounded le positive stalls
  obtain ⟨later, left⟩ := closed_unfolds engine (config.withTimeout longerMs) rest
    (reached.execute engine (config.withTimeout longerMs) item.context item.step).2
  rw [closed, runSteps_append, comes]
  exact outlasts.continues (gone.append left)

/-- Steps whose work asks for no timeout come to one end under two timeouts, or part on the way. -/
theorem closed_or_parts (engine : Engine σ) (positive : 0 < config.pollIntervalMs)
    {pipeline : List Scheduled} (heedless : ∀ item ∈ pipeline, item.step.Heedless)
    (timeoutMs otherMs : Nat) (begun : World σ) :
    begun.closed engine (config.withTimeout timeoutMs) pipeline =
        begun.closed engine (config.withTimeout otherMs) pipeline ∨
      ∃ stop, Parts engine config timeoutMs otherMs pipeline begun
        (begun.closed engine (config.withTimeout timeoutMs) pipeline)
        (begun.closed engine (config.withTimeout otherMs) pipeline) stop := by
  have left := Nat.min_le_left timeoutMs otherMs
  have right := Nat.min_le_right timeoutMs otherMs
  rcases unstalled_or_exists_first engine (config.withTimeout (min timeoutMs otherMs)) pipeline
      begun with
    unstalled | ⟨front, item, rest, rfl, unstalled, condition, waits, bounded, elapsed⟩
  · apply Or.inl
    rw [closed, closed, runSteps_of_unstalled heedless left positive unstalled,
      runSteps_of_unstalled heedless right positive unstalled]
  · apply Or.inr
    have before := (List.forall_mem_append.mp heedless).1
    have comes := runSteps_of_unstalled before left positive unstalled
    have comes' := runSteps_of_unstalled before right positive unstalled
    cases stalls : await engine (config.withTimeout (min timeoutMs otherMs)) condition
        ((begun.runSteps engine (config.withTimeout (min timeoutMs otherMs)) front).entering
          item) with
    | mk ending parting =>
        obtain rfl : ending = .elapsed := by
          rw [stalls] at elapsed
          exact elapsed
        exact ⟨⟨front, item, rest, condition, _, parting⟩, rfl, waits, bounded, unstalled, comes,
          comes', stalls, (execute_of_stalls waits bounded left positive stalls).1,
          closed_continues waits bounded left positive comes stalls rest,
          closed_continues waits bounded right positive comes' stalls rest⟩

/-- Two runs under settings that differ in the timeout alone are one and the same, unless they part
at a wait that is bounded by the settings and outlasts the shorter timeout.  For an address a run
waits as long as ever. -/
theorem runs_part (engine : Engine σ) (positive : 0 < config.pollIntervalMs) (entryUrl : String)
    {suite : Suite} (builtIn : ∀ item ∈ suite.pipeline, item.step.BuiltIn)
    (timeoutMs otherMs : Nat) (world : World σ) :
    ∃ result after after',
      world.run engine (config.withTimeout timeoutMs) entryUrl suite = (result, after) ∧
      world.run engine (config.withTimeout otherMs) entryUrl suite = (result, after') ∧
      ((∀ item ∈ suite.pipeline, ∀ condition, item.step.strategy = .wait condition →
          ∃ message url, item.step.Does (.reached message url)) → after = after') ∧
      (after = after' ∨ ∃ stop,
        Parts engine config timeoutMs otherMs suite.pipeline (world.running engine entryUrl suite)
          after after' stop) := by
  cases answer : (engine.answer (.start entryUrl)
      (engine.accept (.start entryUrl) world.state)).1 with
  | error error =>
      have refuses : engine.Refuses entryUrl error world.state := answer
      exact ⟨_, _, _, run_of_refuses refuses, run_of_refuses refuses, fun _ => rfl, .inl rfl⟩
  | ok =>
      have starts : engine.Starts entryUrl world.state := answer
      have heedless : ∀ item ∈ suite.pipeline, item.step.Heedless :=
        fun item membership => (builtIn item membership).heedless
      have ways := closed_or_parts engine positive heedless timeoutMs otherMs
        (world.running engine entryUrl suite)
      refine ⟨_, _, _, run_of_starts starts, run_of_starts starts, ?_, ways⟩
      intro only
      rcases ways with same | ⟨stop, parts⟩
      · exact same
      · obtain ⟨message, url, does⟩ :=
          only stop.item (by simp [parts.split]) stop.condition parts.waits
        have address := parts.waits.symm.trans does.strategy
        have bounded := parts.bounded
        rw [Strategy.wait.inj address] at bounded
        exact bounded.elim

/-- Where there is no button, nobody can buy: one run gives up sooner than the other. -/
theorem buying_parts :
    0 < Config.default.pollIntervalMs ∧ (∀ item ∈ Page.buying.pipeline, item.step.BuiltIn) ∧
      ∃ result after after' stop,
        World.run Page.engine (Config.default.withTimeout 200) "/" Page.buying
          (.fresh .blank 0 .empty) = (result, after) ∧
        World.run Page.engine (Config.default.withTimeout 500) "/" Page.buying
          (.fresh .blank 0 .empty) = (result, after') ∧
        after.clock = 200 ∧ after'.clock = 500 ∧
        Parts Page.engine .default 200 500 Page.buying.pipeline
          (running Page.engine "/" Page.buying (.fresh .blank 0 .empty)) after after' stop := by
  have positive : 0 < Config.default.pollIntervalMs := by decide
  refine ⟨positive, Page.buying_builtIn, ?_⟩
  have early : (World.run Page.engine (Config.default.withTimeout 200) "/" Page.buying
      (.fresh .blank 0 .empty)).2.clock = 200 := rfl
  have late : (World.run Page.engine (Config.default.withTimeout 500) "/" Page.buying
      (.fresh .blank 0 .empty)).2.clock = 500 := rfl
  obtain ⟨result, after, after', ran, ran', -, ways⟩ :=
    runs_part Page.engine positive "/" Page.buying_builtIn 200 500 (.fresh .blank 0 .empty)
  rw [ran] at early
  rw [ran'] at late
  rcases ways with rfl | ⟨stop, parts⟩
  · exact absurd (early.symm.trans late) (by decide)
  · exact ⟨result, after, after', stop, ran, ran', early, late, parts⟩

end World

end Rehearsal

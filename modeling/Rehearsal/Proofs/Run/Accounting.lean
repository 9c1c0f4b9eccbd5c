import Rehearsal.Engine.Page
import Rehearsal.Proofs.Run.Stepping
import Rehearsal.Proofs.Run.Timetable

/-!
What a step says of itself, and what it has put on record.

The outcome with which a step ends is kept apart from the timeline.  It can be read off the timeline
all the same, whatever the work of the step has reported, logged and asked for, and whether it has
failed in the end.
-/

namespace Rehearsal

/-- The outcome that is told last. -/
def Event.lastOutcome? (events : List Event) : Option Outcome :=
  (events.filterMap signal?).getLast?.map Prod.fst

theorem Event.lastOutcome?_append (front back : List Event) :
    lastOutcome? (front ++ back) = (lastOutcome? back).or (lastOutcome? front) := by
  unfold lastOutcome?
  rw [List.filterMap_append, List.getLast?_append]
  cases (back.filterMap signal?).getLast? <;> rfl

theorem Event.lastOutcome?_of_silent {events : List Event}
    (silent : events.filterMap signal? = []) : lastOutcome? events = none := by
  rw [lastOutcome?, silent]
  rfl

theorem Event.lastOutcome?_cons {event : Event} {told : Outcome × String × Nat}
    (tells : event.signal? = some told) (events : List Event) :
    lastOutcome? (event :: events) = (lastOutcome? events).or (some told.1) := by
  have first : lastOutcome? [event] = some told.1 := by simp [lastOutcome?, tells]
  rw [← List.singleton_append, lastOutcome?_append, first]

theorem Event.signal?_ofSignal (context : Context) (passed : Bool) (message : String) :
    (ofSignal context passed message).signal? =
      some (if passed then .passed else .failed, context.scenario, context.index) := by
  cases passed <;> rfl

/-- What a program reports last is the last that its history tells. -/
theorem Program.Performs.reported {context : Context} {program : Program}
    {reported : Option Outcome} {history : List Occurrence} {performance : Performance}
    (performs : program.Performs context reported history performance) :
    performance.reported =
      (Event.lastOutcome? (history.filterMap Occurrence.event?)).or reported := by
  induction performs with
  | done | fail => rfl
  | @signal passed message next reported history performance _ inductionHypothesis =>
      rw [List.filterMap_cons, Occurrence.event?_recorded,
        Event.lastOutcome?_cons (Event.signal?_ofSignal context passed message),
        inductionHypothesis, Option.or_assoc]
      rfl
  | log _ inductionHypothesis | call _ inductionHypothesis | sleep _ inductionHypothesis
  | note _ inductionHypothesis | signalled _ inductionHypothesis => exact inductionHypothesis

/-- Work that has been done: what has come to pass in it, and what has come of it. -/
structure Work where
  history : List Occurrence
  performance : Performance

namespace Work

def events (work : Work) : List Event :=
  work.history.filterMap Occurrence.event?

/-- The work is that of the step, done once from its beginning to its end. -/
def Genuine (config : Config) (context : Context) (step : Step) (work : Work) : Prop :=
  ∃ callback, step.callback = some callback ∧
    (callback { context, message := step.message, config }).Performs context none work.history
      work.performance

variable {config : Config} {context : Context} {step : Step} {work : Work}

theorem Genuine.reported (genuine : work.Genuine config context step) :
    work.performance.reported = Event.lastOutcome? work.events := by
  obtain ⟨callback, -, performs⟩ := genuine
  rw [performs.reported, Option.or_none]
  rfl

end Work

/-- What has come to pass in a step, part by part. -/
structure Account where
  waiting : List Occurrence
  work : Option Work
  /-- How the step has been reported behind its work. -/
  report : List Occurrence
  picture : List Occurrence

namespace Account

def history (context : Context) (step : Step) (account : Account) : List Occurrence :=
  .entered context.scenario context.index ::
    (account.waiting ++ (account.work.elim [] Work.history ++
      (account.report ++ (step.lastWords ++ account.picture))))

/-- Each part of the account is what it is taken for. -/
structure Genuine (config : Config) (context : Context) (step : Step) (account : Account) :
    Prop where
  unrecorded : account.waiting.filterMap Occurrence.event? = []
  probes : ∀ call ∈ account.waiting.filterMap Occurrence.call?,
    ∃ condition, step.strategy = .wait condition ∧ call = condition.probe
  work : ∀ work, account.work = some work → work.Genuine config context step
  idle : account.report.filterMap Occurrence.call? = []
  pictured : (context.evidence config step.message).Pictured account.picture

end Account

namespace Step

/-- The events of a step bear out its outcome. -/
structure Accounts (config : Config) (context : Context) (step : Step) (work : Option Work)
    (events : List Event) (outcome : Outcome) : Prop where
  told : (Event.lastOutcome? events).getD .passed = outcome
  /-- Only a step that does not wait, and whose work has neither failed nor reported anything, goes
  without a report. -/
  untold : Event.lastOutcome? events = none → step.strategy = .immediate ∧
    ∀ done, work = some done →
      done.performance.result = .ok () ∧ Event.lastOutcome? done.events = none
  /-- Where the work has failed, that is the last thing to be told, whatever it has reported. -/
  failed : ∀ done error, work = some done → done.performance.result = .error error →
    ∃ behind,
      events = done.events ++ .failed context.scenario context.index step.message ::
        .log .error ("Error: " ++ error.message) :: behind ∧
      behind.filterMap Event.signal? = []
  /-- Where it has not failed, nothing is added to what it has reported. -/
  reported : ∀ done, work = some done → done.performance.result = .ok () →
    Event.lastOutcome? done.events ≠ none →
      events.filterMap Event.signal? = done.events.filterMap Event.signal?
  /-- The last line of a step that has waited stands between its outcome and its picture. -/
  informed : ∀ condition info, step.strategy = .wait condition → step.info = some info →
    ∃ before last, events = before ++ [.log .info info, last] ∧
      Event.lastOutcome? before = some outcome
  pictured : ∃ before last, events = before ++ [last] ∧
    (last = .captured (context.evidence config step.message) ∨
      ∃ error : EngineError, last = .log .warning ("Capture failed: " ++ error.message))

/-- How a step is reported behind its work, if it has come to that. -/
inductive Settles (context : Context) (step : Step) :
    Option Work → List Occurrence → Outcome → Prop where
  | elapsed {condition : Condition} :
      step.strategy = .wait condition →
      Settles context step none (timeoutHistory context step.message) .timedOut
  | unanswered {condition : Condition} {error : EngineError} :
      step.strategy = .wait condition →
      Settles context step none (faultHistory context step.message error.message) .failed
  | failed {work : Work} {error : StepError} :
      work.performance.result = .error error →
      Settles context step (some work) (faultHistory context step.message error.message) .failed
  | reported {work : Work} {outcome : Outcome} :
      work.performance.result = .ok () → Event.lastOutcome? work.events = some outcome →
      Settles context step (some work) [] outcome
  | passed {condition : Condition} {work : Option Work} :
      step.strategy = .wait condition →
      (∀ done, work = some done →
        done.performance.result = .ok () ∧ Event.lastOutcome? done.events = none) →
      Settles context step work
        [.recorded (.passed context.scenario context.index step.message)] .passed
  | unreported {work : Option Work} :
      step.strategy = .immediate →
      (∀ done, work = some done →
        done.performance.result = .ok () ∧ Event.lastOutcome? done.events = none) →
      Settles context step work [] .passed

/-- The work that a step has done, if it has any to do, with what has come to pass in it and what
has come of it. -/
inductive Did (config : Config) (context : Context) (step : Step) :
    Option Work → List Occurrence → Performance → Prop where
  | work {history : List Occurrence} {performance : Performance} :
      Work.Genuine config context step { history, performance } →
      Did config context step (some { history, performance }) history performance
  | idle :
      step.callback = none →
      Did config context step none [] { result := .ok (), reported := none }

section

variable {config : Config} {context : Context} {step : Step} {work : Option Work}
  {history report : List Occurrence} {performance : Performance} {outcome : Outcome}

theorem Works.did (works : step.Works config context history performance) :
    ∃ work, step.Did config context work history performance := by
  unfold Works at works
  split at works
  next callback held => exact ⟨_, .work ⟨callback, held, works⟩⟩
  next held =>
    obtain ⟨rfl, rfl⟩ := works
    exact ⟨_, .idle held⟩

theorem Did.history_eq (did : step.Did config context work history performance) :
    work.elim [] Work.history = history := by
  cases did <;> rfl

theorem Did.genuine (did : step.Did config context work history performance) :
    ∀ done, work = some done → done.Genuine config context step := by
  rintro done rfl
  cases did with
  | work genuine => exact genuine

theorem Did.isSome (did : step.Did config context work history performance) :
    work.isSome = true ↔ step.callback.isSome = true := by
  cases did with
  | work genuine =>
      obtain ⟨callback, held, -⟩ := genuine
      simp [held]
  | idle idle => simp [idle]

theorem Did.quiet
    (did : step.Did config context work history { result := .ok (), reported := none }) :
    ∀ done, work = some done →
      done.performance.result = .ok () ∧ Event.lastOutcome? done.events = none := by
  rintro done rfl
  cases did with
  | work genuine => exact ⟨rfl, genuine.reported.symm⟩

/-- The last that is told is the outcome, unless there is nothing to tell. -/
theorem Settles.tells (settles : step.Settles context work report outcome) :
    let said := work.elim [] Work.events ++ report.filterMap Occurrence.event?
    Event.lastOutcome? said = some outcome ∨
      Event.lastOutcome? said = none ∧ outcome = .passed ∧ step.strategy = .immediate ∧
        ∀ done, work = some done →
          done.performance.result = .ok () ∧ Event.lastOutcome? done.events = none := by
  intro said
  unfold said
  rw [Event.lastOutcome?_append]
  cases settles with
  | elapsed | unanswered | failed | passed => exact .inl rfl
  | reported _ told => exact .inl told
  | unreported immediate quiet =>
      refine .inr ⟨?_, rfl, immediate, quiet⟩
      cases work with
      | none => rfl
      | some done => exact (quiet done rfl).2

theorem Settles.failed_eq {done : Work} {error : StepError}
    (settles : step.Settles context (some done) report outcome)
    (fails : done.performance.result = .error error) :
    report = faultHistory context step.message error.message := by
  cases settles with
  | failed also =>
      cases fails.symm.trans also
      rfl
  | reported succeeds => cases fails.symm.trans succeeds
  | passed _ quiet | unreported _ quiet => cases fails.symm.trans (quiet done rfl).1

theorem Settles.reported_eq {done : Work}
    (settles : step.Settles context (some done) report outcome)
    (succeeds : done.performance.result = .ok ())
    (told : Event.lastOutcome? done.events ≠ none) : report = [] := by
  cases settles with
  | failed fails => cases succeeds.symm.trans fails
  | reported => rfl
  | passed _ quiet | unreported _ quiet => exact (told (quiet done rfl).2).elim

end

end Step

theorem Evidence.Pictured.last {evidence : Evidence} {picture : List Occurrence}
    (pictured : evidence.Pictured picture) :
    ∃ last, picture.filterMap Occurrence.event? = [last] ∧ last.signal? = none ∧
      (last = .captured evidence ∨
        ∃ error : EngineError, last = .log .warning ("Capture failed: " ++ error.message)) := by
  cases pictured with
  | captured => exact ⟨_, rfl, rfl, .inl rfl⟩
  | @refused _ error => exact ⟨_, rfl, rfl, .inr ⟨error, rfl⟩⟩

namespace Account

variable {config : Config} {context : Context} {step : Step} {account : Account}
  {outcome : Outcome}

/-- What a step records: what its work has said, how it is reported, and two things that tell
nothing about its outcome. -/
theorem Genuine.events (genuine : account.Genuine config context step) :
    (account.history context step).filterMap Occurrence.event? =
      account.work.elim [] Work.events ++ account.report.filterMap Occurrence.event? ++
        (step.lastWords.filterMap Occurrence.event? ++
          account.picture.filterMap Occurrence.event?) := by
  have worked : (account.work.elim [] Work.history).filterMap Occurrence.event? =
      account.work.elim [] Work.events := by
    cases account.work <;> rfl
  simp only [history, List.filterMap_cons, Occurrence.event?_entered, List.filterMap_append,
    genuine.unrecorded, worked, List.nil_append, List.append_assoc]

theorem Genuine.accounts (genuine : account.Genuine config context step)
    (settles : step.Settles context account.work account.report outcome) :
    step.Accounts config context account.work
      ((account.history context step).filterMap Occurrence.event?) outcome := by
  obtain ⟨last, shown, unsigned, pictured⟩ := genuine.pictured.last
  have tells := settles.tells
  rw [genuine.events, shown]
  generalize said : account.work.elim [] Work.events ++
    account.report.filterMap Occurrence.event? = events at tells ⊢
  have silent : (step.lastWords.filterMap Occurrence.event? ++ [last]).filterMap Event.signal? =
      [] := by
    rw [List.filterMap_append, ← filterMap_signal?, Step.signals_lastWords]
    simp [unsigned]
  have same : Event.lastOutcome? (events ++
      (step.lastWords.filterMap Occurrence.event? ++ [last])) = Event.lastOutcome? events := by
    rw [Event.lastOutcome?_append, Event.lastOutcome?_of_silent silent, Option.none_or]
  refine ⟨?_, ?_, ?_, ?_, ?_, ?_⟩
  · rw [same]
    rcases tells with told | ⟨untold, rfl, -⟩
    · rw [told]
      rfl
    · rw [untold]
      rfl
  · rw [same]
    intro untold
    rcases tells with told | ⟨-, -, immediate, quiet⟩
    · cases told.symm.trans untold
    · exact ⟨immediate, quiet⟩
  · intro done error worked fails
    rw [worked] at settles said
    rw [settles.failed_eq fails] at said
    refine ⟨_, ?_, silent⟩
    rw [← said, List.append_assoc]
    rfl
  · intro done worked succeeds told
    rw [worked] at settles said
    rw [settles.reported_eq succeeds told] at said
    rw [List.filterMap_append, silent, List.append_nil, ← said]
    simp
  · intro condition info waits informs
    have words : step.lastWords = [.recorded (.log .info info)] := by
      rw [Step.lastWords, waits, informs]
    refine ⟨events, last, ?_, ?_⟩
    · rw [words]
      rfl
    · rcases tells with told | ⟨-, -, immediate, -⟩
      · exact told
      · cases waits.symm.trans immediate
  · exact ⟨_, last, (List.append_assoc _ _ _).symm, pictured⟩

end Account

namespace Step

variable {config : Config} {context : Context} {step : Step} {rest : List Occurrence}
  {outcome : Outcome}

/-- Behind its wait a step has done its work, if the wait has ended with its condition, and has been
reported. -/
theorem Follows.settles {condition : Condition} {ending : WaitEnd}
    (follows : step.Follows config context ending rest outcome)
    (waits : step.strategy = .wait condition) :
    ∃ work report, rest = work.elim [] Work.history ++ report ∧
      step.Settles context work report outcome ∧
      (∀ done, work = some done → done.Genuine config context step) ∧
      (work.isSome = true ↔ step.callback.isSome = true ∧ ending = .met) := by
  cases follows with
  | elapsed => exact ⟨none, _, rfl, .elapsed waits, by simp, by simp⟩
  | unanswered => exact ⟨none, _, rfl, .unanswered waits, by simp, by simp⟩
  | failed works =>
      obtain ⟨work, did⟩ := works.did
      refine ⟨work, _, by rw [did.history_eq], ?_, did.genuine, by simp [did.isSome]⟩
      cases did with
      | work => exact .failed rfl
  | reported works =>
      obtain ⟨work, did⟩ := works.did
      refine ⟨work, [], by rw [did.history_eq, List.append_nil], ?_, did.genuine,
        by simp [did.isSome]⟩
      cases did with
      | work genuine => exact .reported rfl genuine.reported.symm
  | passed works =>
      obtain ⟨work, did⟩ := works.did
      exact ⟨work, _, by rw [did.history_eq], .passed waits did.quiet, did.genuine,
        by simp [did.isSome]⟩

/-- A step that does not wait has done its work, and has been reported if that has failed. -/
theorem Goes.settles (goes : step.Goes config context rest outcome)
    (immediate : step.strategy = .immediate) :
    ∃ work report, rest = work.elim [] Work.history ++ report ∧
      step.Settles context work report outcome ∧
      (∀ done, work = some done → done.Genuine config context step) ∧
      (work.isSome = true ↔ step.callback.isSome = true) := by
  cases goes with
  | elapsed waits | unanswered waits | passed waits => cases waits.symm.trans immediate
  | failed begins works =>
      obtain rfl := begins.eq_nil immediate
      obtain ⟨work, did⟩ := works.did
      refine ⟨work, _, by rw [did.history_eq, List.nil_append], ?_, did.genuine, did.isSome⟩
      cases did with
      | work => exact .failed rfl
  | reported begins works =>
      obtain rfl := begins.eq_nil immediate
      obtain ⟨work, did⟩ := works.did
      refine ⟨work, [], by rw [did.history_eq, List.nil_append, List.append_nil], ?_, did.genuine,
        did.isSome⟩
      cases did with
      | work genuine => exact .reported rfl genuine.reported.symm
  | unreported _ works =>
      obtain ⟨work, did⟩ := works.did
      exact ⟨work, [], by rw [did.history_eq, List.append_nil], .unreported immediate did.quiet,
        did.genuine, did.isSome⟩

theorem Settles.calls {work : Option Work} {report : List Occurrence}
    (settles : step.Settles context work report outcome) :
    report.filterMap Occurrence.call? = [] := by
  cases settles <;> rfl

end Step

/-- A wait that begins in a state of the engine, by which it is decided whether the condition is
met. -/
structure Condition.Waits {σ : Type} (engine : Engine σ) (config : Config) (condition : Condition)
    (state : σ) (waiting : List Occurrence) (ending : WaitEnd) : Prop where
  awaits : condition.Awaits config.pollIntervalMs waiting ending
  met_iff : ending = .met ↔
    (engine.course condition state).Meets config.pollIntervalMs (condition.bound config)

namespace World

variable {σ : Type} (engine : Engine σ) {config : Config} {context : Context} {step : Step}
  {world : World σ}

theorem await_waits (positive : 0 < config.pollIntervalMs) (condition : Condition)
    (world : World σ) :
    ∃ waiting,
      condition.Waits engine config world.state waiting (world.await engine config condition).1 ∧
      ∃ elapsed, world.Unfolds engine
        (waiting ++ waitRemark condition elapsed (world.await engine config condition).1)
        (world.await engine config condition).2 := by
  obtain ⟨waiting, awaits, unfolds⟩ := await_unfolds engine config condition world
  exact ⟨waiting, ⟨awaits, await_met_iff engine config condition world positive⟩, unfolds⟩

/-- An immediate step is accounted for by its work and its picture. -/
theorem execute_immediate_settles (immediate : step.strategy = .immediate) :
    ∃ (outcome : Outcome) (account : Account),
      (world.execute engine config context step).1 = some outcome ∧
      world.Unfolds engine (account.history context step)
        (world.execute engine config context step).2 ∧
      account.Genuine config context step ∧
      step.Settles context account.work account.report outcome ∧
      (account.work.isSome = true ↔ step.callback.isSome = true) := by
  obtain ⟨course, picture, outcome, said, goes, pictured, unfolds⟩ :=
    execute_immediate_unfolds engine config context step immediate world
  obtain ⟨work, report, rfl, settles, genuine, worked⟩ := goes.settles immediate
  refine ⟨outcome, ⟨[], work, report, picture⟩, said, ?_,
    ⟨rfl, by simp, genuine, settles.calls, pictured⟩, settles, worked⟩
  rw [Account.history, Step.lastWords_of_immediate immediate, List.nil_append, List.nil_append,
    ← List.append_assoc]
  exact unfolds

theorem execute_wait_settles (positive : 0 < config.pollIntervalMs) {condition : Condition}
    (waits : step.strategy = .wait condition) :
    ∃ (outcome : Outcome) (account : Account),
      (world.execute engine config context step).1 = some outcome ∧
      world.Unfolds engine (account.history context step)
        (world.execute engine config context step).2 ∧
      account.Genuine config context step ∧
      step.Settles context account.work account.report outcome ∧
      (account.work.isSome = true ↔ step.callback.isSome = true ∧
        (engine.course condition world.state).Meets config.pollIntervalMs
          (condition.bound config)) := by
  obtain ⟨waiting, ending, elapsed, rest, picture, outcome, said, ⟨awaits, met⟩, follows, pictured,
      unfolds⟩ :=
    execute_wait_unfolds engine config context step waits
      (await_waits engine positive condition
        (world.write (Ledger.enter context.scenario context.index)))
  obtain ⟨work, report, rfl, settles, genuine, worked⟩ := follows.settles waits
  rw [met] at worked
  refine ⟨outcome, ⟨waiting ++ waitRemark condition elapsed ending, work, report, picture⟩, said,
    ?_, ⟨?_, ?_, genuine, settles.calls, pictured⟩, settles, worked⟩
  · simpa only [Account.history, List.append_assoc] using unfolds
  · simp [awaits.events, events_waitRemark]
  · intro call asked
    rw [List.filterMap_append, calls_waitRemark, List.append_nil] at asked
    exact ⟨condition, waits, awaits.calls call asked⟩

/-- What a step says of itself is what it has put on record.  It adds to the timeline and takes
nothing from it.  Its work is done once if there is any, and if the step does not wait or is met by
its condition in time; otherwise it is not done.  The outcome is the one that the step has told
last, or that it has passed if it has told none. -/
theorem execute_accounts (config : Config) (context : Context) (step : Step) (world : World σ)
    (positive : 0 < config.pollIntervalMs) (other : step.strategy ≠ .banner) :
    ∃ (outcome : Outcome) (after : World σ) (account : Account),
      world.execute engine config context step = (some outcome, after) ∧
      world.Unfolds engine (account.history context step) after ∧
      account.Genuine config context step ∧
      (account.work.isSome = true ↔ step.callback.isSome = true ∧
        (step.strategy = .immediate ∨ ∃ condition, step.strategy = .wait condition ∧
          (engine.course condition world.state).Meets config.pollIntervalMs
            (condition.bound config))) ∧
      ∃ events, after.ledger.events.toList = world.ledger.events.toList ++ events ∧
        step.Accounts config context account.work events outcome := by
  cases strategy : step.strategy with
  | banner => exact (other strategy).elim
  | immediate =>
      obtain ⟨outcome, account, said, unfolds, genuine, settles, worked⟩ :=
        execute_immediate_settles engine strategy
      exact ⟨outcome, _, account, Prod.ext said rfl, unfolds, genuine, by simp [worked], _,
        unfolds.events, genuine.accounts settles⟩
  | wait condition =>
      obtain ⟨outcome, account, said, unfolds, genuine, settles, worked⟩ :=
        execute_wait_settles engine positive strategy
      exact ⟨outcome, _, account, Prod.ext said rfl, unfolds, genuine, by simp [worked], _,
        unfolds.events, genuine.accounts settles⟩

end World

/-- A step whose work reports that it has passed, and fails behind that. -/
def Step.overruled : Step :=
  .waiting "When I pay" (.selector "#pay")
    (some fun _ => .signal true "the card is there"
      (.call (.click "#pay") fun _ => .fail (.assertion "the card is refused")))
    (some "by card")

def Page.checkout : World Page :=
  .initial (Page.blank.withSelector "#pay")

def Context.payment : Context :=
  { voice := some .when, scenario := "Paying", index := 1 }

/-- The failure has the last word, and the line of the step stands between it and the picture. -/
theorem Step.overruled_accounts :
    let (outcome, after) := Page.checkout.execute Page.engine .default .payment overruled
    0 < Config.default.pollIntervalMs ∧ overruled.strategy ≠ .banner ∧ outcome = some .failed ∧
      after.ledger.events.toList =
        [.passed "Paying" 1 "the card is there", .failed "Paying" 1 "When I pay",
          .log .error "Error: the card is refused", .log .info "by card",
          .captured (Context.payment.evidence .default "When I pay")] ∧
      ∃ (outcome : Outcome) (after : World Page) (account : Account),
        Page.checkout.execute Page.engine .default .payment overruled = (some outcome, after) ∧
        Page.checkout.Unfolds Page.engine (account.history .payment overruled) after ∧
        account.Genuine .default .payment overruled ∧
        (account.work.isSome = true ↔ overruled.callback.isSome = true ∧
          (overruled.strategy = .immediate ∨ ∃ condition,
            overruled.strategy = .wait condition ∧
            (Page.engine.course condition Page.checkout.state).Meets 100
              (condition.bound .default))) ∧
        ∃ events, after.ledger.events.toList = Page.checkout.ledger.events.toList ++ events ∧
          overruled.Accounts .default .payment account.work events outcome :=
  ⟨by decide, by rintro ⟨⟩, rfl, rfl,
    World.execute_accounts Page.engine .default .payment overruled Page.checkout (by decide)
      (by rintro ⟨⟩)⟩

end Rehearsal

import Rehearsal.Proofs.Run.Working

/-!
What comes to pass while a step is run.

A banner only speaks.  Any other step waits if it has to, does its work, is reported, and has its
picture taken at the end, however it has gone.
-/

namespace Rehearsal

/-- The failure of a step is reported, and why it failed. -/
def faultHistory (context : Context) (message reason : String) : List Occurrence :=
  [.recorded (.failed context.scenario context.index message),
    .recorded (.log .error ("Error: " ++ reason))]

/-- What a timeout leaves behind. -/
def timeoutHistory (context : Context) (message : String) : List Occurrence :=
  [.recorded (.timedOut context.scenario context.index message),
    .recorded (.log .warning "Timeout")]

/-- What a banner leaves behind. -/
def bannerHistory (scenario : String) : List Occurrence :=
  [.recorded (.log .info ""), .recorded (.log .infoBar ("Scenario: " ++ scenario)),
    .recorded (.banner scenario)]

namespace Step

/-- What comes to pass before the work of a step can be done: nothing, or a wait for a condition
that is met. -/
inductive Begins (config : Config) (step : Step) : List Occurrence → Prop where
  | atOnce : step.strategy = .immediate → Begins config step []
  | waited {condition : Condition} {waiting : List Occurrence} {elapsed : Nat} :
      step.strategy = .wait condition →
      condition.Awaits config.pollIntervalMs waiting .met →
      Begins config step (waiting ++ World.waitRemark condition elapsed .met)

/-- How a step other than a banner goes until it has come to its outcome. -/
inductive Goes (config : Config) (context : Context) (step : Step) :
    List Occurrence → Outcome → Prop where
  | elapsed {condition : Condition} {waiting : List Occurrence} :
      step.strategy = .wait condition →
      condition.Awaits config.pollIntervalMs waiting .elapsed →
      Goes config context step (waiting ++ timeoutHistory context step.message) .timedOut
  /-- The engine has failed in the wait. -/
  | unanswered {condition : Condition} {waiting : List Occurrence} {error : EngineError} :
      step.strategy = .wait condition →
      condition.Awaits config.pollIntervalMs waiting (.failed error) →
      Goes config context step (waiting ++ faultHistory context step.message error.message) .failed
  /-- The work has failed. -/
  | failed {beginning working : List Occurrence} {error : StepError}
      {reported : Option Outcome} :
      step.Begins config beginning →
      step.Works config context working { result := .error error, reported } →
      Goes config context step
        (beginning ++ (working ++ faultHistory context step.message error.message)) .failed
  /-- The work has reported for itself. -/
  | reported {beginning working : List Occurrence} {outcome : Outcome} :
      step.Begins config beginning →
      step.Works config context working { result := .ok (), reported := some outcome } →
      Goes config context step (beginning ++ working) outcome
  /-- A step that has waited passes unless its work says otherwise. -/
  | passed {condition : Condition} {beginning working : List Occurrence} :
      step.strategy = .wait condition →
      step.Begins config beginning →
      step.Works config context working { result := .ok (), reported := none } →
      Goes config context step
        (beginning ++
          (working ++ [.recorded (.passed context.scenario context.index step.message)])) .passed
  /-- A step that has not waited need not be reported at all. -/
  | unreported {working : List Occurrence} :
      step.strategy = .immediate →
      step.Works config context working { result := .ok (), reported := none } →
      Goes config context step working .passed

/-- How a step goes on behind its wait, by the end of the wait, until it has come to its
outcome. -/
inductive Follows (config : Config) (context : Context) (step : Step) :
    WaitEnd → List Occurrence → Outcome → Prop where
  | elapsed : Follows config context step .elapsed (timeoutHistory context step.message) .timedOut
  | unanswered {error : EngineError} :
      Follows config context step (.failed error)
        (faultHistory context step.message error.message) .failed
  | failed {working : List Occurrence} {error : StepError} {reported : Option Outcome} :
      step.Works config context working { result := .error error, reported } →
      Follows config context step .met
        (working ++ faultHistory context step.message error.message) .failed
  | reported {working : List Occurrence} {outcome : Outcome} :
      step.Works config context working { result := .ok (), reported := some outcome } →
      Follows config context step .met working outcome
  | passed {working : List Occurrence} :
      step.Works config context working { result := .ok (), reported := none } →
      Follows config context step .met
        (working ++ [.recorded (.passed context.scenario context.index step.message)]) .passed

section

variable {config : Config} {context : Context} {step : Step} {history : List Occurrence}

theorem Follows.goes {condition : Condition} {waiting : List Occurrence} {ending : WaitEnd}
    {outcome : Outcome} (follows : step.Follows config context ending history outcome)
    (waits : step.strategy = .wait condition)
    (awaits : condition.Awaits config.pollIntervalMs waiting ending) (elapsed : Nat) :
    step.Goes config context
      (waiting ++ (World.waitRemark condition elapsed ending ++ history)) outcome := by
  cases follows with
  | elapsed => exact .elapsed waits awaits
  | unanswered => exact .unanswered waits awaits
  | failed works =>
      rw [← List.append_assoc]
      exact .failed (.waited waits awaits) works
  | reported works =>
      rw [← List.append_assoc]
      exact .reported (.waited waits awaits) works
  | passed works =>
      rw [← List.append_assoc]
      exact .passed waits (.waited waits awaits) works

theorem Begins.events (begins : step.Begins config history) :
    history.filterMap Occurrence.event? = [] := by
  cases begins with
  | atOnce => rfl
  | waited _ awaits => simp [awaits.events, World.waitRemark]

theorem Begins.eq_nil (begins : step.Begins config history)
    (immediate : step.strategy = .immediate) : history = [] := by
  cases begins with
  | atOnce => rfl
  | waited waits => cases waits.symm.trans immediate

theorem Begins.eq_waited {condition : Condition} (begins : step.Begins config history)
    (waits : step.strategy = .wait condition) :
    ∃ waiting elapsed, history = waiting ++ World.waitRemark condition elapsed .met ∧
      condition.Awaits config.pollIntervalMs waiting .met := by
  cases begins with
  | atOnce immediate => cases waits.symm.trans immediate
  | waited also awaits =>
      cases waits.symm.trans also
      exact ⟨_, _, rfl, awaits⟩

/-- A step that waits goes as its wait does, and on from there. -/
theorem Goes.waited {condition : Condition} {outcome : Outcome}
    (goes : step.Goes config context history outcome) (waits : step.strategy = .wait condition) :
    ∃ waiting ending elapsed rest,
      history = waiting ++ (World.waitRemark condition elapsed ending ++ rest) ∧
      condition.Awaits config.pollIntervalMs waiting ending ∧
      step.Follows config context ending rest outcome := by
  cases goes with
  | elapsed also awaits =>
      cases waits.symm.trans also
      exact ⟨_, _, 0, _, rfl, awaits, .elapsed⟩
  | unanswered also awaits =>
      cases waits.symm.trans also
      exact ⟨_, _, 0, _, rfl, awaits, .unanswered⟩
  | failed begins works =>
      obtain ⟨waiting, elapsed, rfl, awaits⟩ := begins.eq_waited waits
      exact ⟨waiting, _, elapsed, _, List.append_assoc _ _ _, awaits, .failed works⟩
  | reported begins works =>
      obtain ⟨waiting, elapsed, rfl, awaits⟩ := begins.eq_waited waits
      exact ⟨waiting, _, elapsed, _, List.append_assoc _ _ _, awaits, .reported works⟩
  | passed _ begins works =>
      obtain ⟨waiting, elapsed, rfl, awaits⟩ := begins.eq_waited waits
      exact ⟨waiting, _, elapsed, _, List.append_assoc _ _ _, awaits, .passed works⟩
  | unreported immediate => cases waits.symm.trans immediate

/-- A step that does not wait is nothing but its work, unless that fails. -/
theorem Goes.acts {outcome : Outcome} (goes : step.Goes config context history outcome)
    (immediate : step.strategy = .immediate) :
    (∃ working error reported,
        history = working ++ faultHistory context step.message error.message ∧
        step.Works config context working { result := .error error, reported }) ∨
      ∃ reported, step.Works config context history { result := .ok (), reported } := by
  cases goes with
  | elapsed waits | unanswered waits | passed waits => cases waits.symm.trans immediate
  | failed begins works =>
      obtain rfl := begins.eq_nil immediate
      exact .inl ⟨_, _, _, rfl, works⟩
  | reported begins works =>
      obtain rfl := begins.eq_nil immediate
      exact .inr ⟨_, works⟩
  | unreported _ works => exact .inr ⟨_, works⟩

theorem Begins.unique_met {condition : Condition} {waiting rest others : List Occurrence}
    {ending : WaitEnd} (begins : step.Begins config history)
    (waits : step.strategy = .wait condition)
    (awaits : condition.Awaits config.pollIntervalMs waiting ending)
    (same : history ++ rest = waiting ++ others) : ending = .met := by
  cases begins with
  | atOnce immediate => cases waits.symm.trans immediate
  | waited also met =>
      cases waits.symm.trans also
      rw [List.append_assoc] at same
      exact (met.unique awaits same).2.1.symm

/-- What comes to pass tells where the work of a step begins. -/
theorem Begins.unique {other rest others : List Occurrence} (begins : step.Begins config history)
    (again : step.Begins config other) (same : history ++ rest = other ++ others) :
    history = other ∧ rest = others := by
  cases begins with
  | atOnce immediate =>
      cases again with
      | atOnce => exact ⟨rfl, same⟩
      | waited waits => cases waits.symm.trans immediate
  | waited waits met =>
      cases again with
      | atOnce immediate => cases waits.symm.trans immediate
      | waited also metAgain =>
          cases waits.symm.trans also
          rw [List.append_assoc, List.append_assoc] at same
          obtain ⟨rfl, -, same⟩ := met.unique metAgain same
          obtain ⟨remark, rfl⟩ := List.cons.inj same
          exact ⟨by rw [World.waitRemark, remark]; rfl, rfl⟩

/-- On its way to its outcome a step only records what it says, but for a timeout, which is all
that it records then. -/
theorem Goes.events {outcome : Outcome} (goes : step.Goes config context history outcome) :
    history.filterMap Occurrence.event? =
        [.timedOut context.scenario context.index step.message, .log .warning "Timeout"] ∨
      ∀ event ∈ history.filterMap Occurrence.event?, event.Spoken := by
  cases goes with
  | elapsed _ awaits =>
      refine .inl ?_
      rw [List.filterMap_append, awaits.events]
      rfl
  | unanswered _ awaits =>
      refine .inr ?_
      rw [List.filterMap_append, awaits.events]
      simp [faultHistory, Event.Spoken]
  | failed begins works =>
      refine .inr ?_
      rw [List.filterMap_append, List.filterMap_append, begins.events, List.nil_append,
        List.forall_mem_append]
      exact ⟨works.spoken, by simp [faultHistory, Event.Spoken]⟩
  | reported begins works =>
      refine .inr ?_
      rw [List.filterMap_append, begins.events, List.nil_append]
      exact works.spoken
  | passed _ begins works =>
      refine .inr ?_
      rw [List.filterMap_append, List.filterMap_append, begins.events, List.nil_append,
        List.forall_mem_append]
      exact ⟨works.spoken, by simp [Event.Spoken]⟩
  | unreported _ works => exact .inr works.spoken

end

/-- The line that a step with a wait has to say at its end. -/
def lastWords (step : Step) : List Occurrence :=
  match step.strategy, step.info with
  | .wait _, some info => [.recorded (.log .info info)]
  | _, _ => []

theorem lastWords_of_immediate {step : Step} (immediate : step.strategy = .immediate) :
    step.lastWords = [] := by
  simp [lastWords, immediate]

theorem signals_lastWords (step : Step) :
    step.lastWords.filterMap Occurrence.signal? = [] := by
  unfold lastWords
  split <;> rfl

end Step

/-- The picture of a step is taken, or is not. -/
inductive Evidence.Pictured (evidence : Evidence) : List Occurrence → Prop where
  | captured {ms : Nat} :
      Pictured evidence
        [.answered (.capture evidence.path) ms (.ok ()), .recorded (.captured evidence)]
  | refused {ms : Nat} {error : EngineError} :
      Pictured evidence
        [.answered (.capture evidence.path) ms (.error error),
          .remarked (.atPath .warning evidence.path
            ("evidence capture failed: " ++ error.message)),
          .recorded (.log .warning ("Capture failed: " ++ error.message))]

/-- What comes to pass when the engine has answered so to being asked for a picture. -/
def Evidence.picture (evidence : Evidence) (ms : Nat) :
    Except EngineError Unit → List Occurrence
  | .ok () => [.answered (.capture evidence.path) ms (.ok ()), .recorded (.captured evidence)]
  | .error error =>
      [.answered (.capture evidence.path) ms (.error error),
        .remarked (.atPath .warning evidence.path ("evidence capture failed: " ++ error.message)),
        .recorded (.log .warning ("Capture failed: " ++ error.message))]

theorem Evidence.picture_pictured (evidence : Evidence) (ms : Nat)
    (reply : Except EngineError Unit) : evidence.Pictured (evidence.picture ms reply) := by
  cases reply with
  | ok => exact .captured
  | error => exact .refused

/-- The evidence of the step of a context. -/
def Context.evidence (config : Config) (context : Context) (message : String) : Evidence :=
  .of config.captureDir context.scenario context.index message

/-- What comes to pass while a step is run, and its outcome. -/
inductive Step.Unrolls (config : Config) (context : Context) (step : Step) :
    List Occurrence → Option Outcome → Prop where
  | banner :
      step.strategy = .banner →
      Unrolls config context step
        (.entered context.scenario context.index :: bannerHistory context.scenario) none
  | step {course picture : List Occurrence} {outcome : Outcome} :
      step.strategy ≠ .banner →
      step.Goes config context course outcome →
      (context.evidence config step.message).Pictured picture →
      Unrolls config context step
        (.entered context.scenario context.index :: (course ++ (step.lastWords ++ picture)))
        (some outcome)

namespace Step

variable {config : Config} {context : Context} {step : Step} {history : List Occurrence}
  {outcome : Option Outcome}

theorem Unrolls.of_banner (unrolls : step.Unrolls config context history outcome)
    (banner : step.strategy = .banner) :
    outcome = none ∧
      history = .entered context.scenario context.index :: bannerHistory context.scenario := by
  cases unrolls with
  | banner => exact ⟨rfl, rfl⟩
  | step other => exact (other banner).elim

theorem Unrolls.of_wait {condition : Condition}
    (unrolls : step.Unrolls config context history outcome)
    (waits : step.strategy = .wait condition) :
    ∃ waiting ending elapsed rest picture result,
      outcome = some result ∧
      history = .entered context.scenario context.index ::
        (waiting ++ (World.waitRemark condition elapsed ending ++ rest) ++
          (step.lastWords ++ picture)) ∧
      condition.Awaits config.pollIntervalMs waiting ending ∧
      step.Follows config context ending rest result ∧
      (context.evidence config step.message).Pictured picture := by
  cases unrolls with
  | banner banner => cases waits.symm.trans banner
  | step _ goes pictured =>
      obtain ⟨waiting, ending, elapsed, rest, rfl, awaits, follows⟩ := goes.waited waits
      exact ⟨_, _, _, _, _, _, rfl, rfl, awaits, follows, pictured⟩

theorem Unrolls.of_immediate (unrolls : step.Unrolls config context history outcome)
    (immediate : step.strategy = .immediate) :
    ∃ course picture result,
      outcome = some result ∧
      history = .entered context.scenario context.index :: (course ++ picture) ∧
      step.Goes config context course result ∧
      (context.evidence config step.message).Pictured picture := by
  cases unrolls with
  | banner banner => cases immediate.symm.trans banner
  | step _ goes pictured =>
      rw [lastWords_of_immediate immediate, List.nil_append]
      exact ⟨_, _, _, rfl, rfl, goes, pictured⟩

end Step

namespace World

variable {σ : Type} (engine : Engine σ) (config : Config) (context : Context)

theorem banner_unfolds (scenario : String) (world : World σ) :
    world.Unfolds engine (bannerHistory scenario) (world.write (Ledger.banner scenario)) := by
  have told : world.write (Ledger.banner scenario) =
      ((world.log .info "").log .infoBar ("Scenario: " ++ scenario)).write
        (Ledger.record (.banner scenario)) := by
    simp only [write, log, Ledger.banner_eq_record, Ledger.log_eq_record]
  rw [told]
  exact .step (undergoes_log engine .info "" world)
    (.step (undergoes_log engine .infoBar _ _) (Undergoes.recorded _ _).unfolds)

theorem timeout_unfolds (message : String) (world : World σ) :
    world.Unfolds engine (timeoutHistory context message)
      (world.write (Ledger.timeout context.scenario context.index message)) := by
  have told : world.write (Ledger.timeout context.scenario context.index message) =
      (world.write (Ledger.record (.timedOut context.scenario context.index message))).log
        .warning "Timeout" := by
    simp only [write, log, Ledger.timeout_eq_record, Ledger.log_eq_record]
  rw [told]
  exact .step (.recorded world _) (undergoes_log engine .warning "Timeout" _).unfolds

theorem fault_unfolds (message reason : String) (world : World σ) :
    world.Unfolds engine (faultHistory context message reason)
      (world.fault context message reason) :=
  .step (undergoes_signal engine context false message world)
    (undergoes_log engine .error _ _).unfolds

theorem capture_pictures (message : String) (world : World σ) :
    let evidence := context.evidence config message
    world.Unfolds engine
      (evidence.picture
        (engine.delay (.capture evidence.path)
          (engine.accept (.capture evidence.path) world.state))
        (world.call engine (.capture evidence.path)).1)
      (world.capture engine config context message) := by
  intro evidence
  have asked := call_unfolds engine (.capture evidence.path) world
  unfold capture
  simp only [evidence, Context.evidence] at asked ⊢
  split
  next reply after called =>
    rw [called] at asked ⊢
    have shown : after.Undergoes engine (.recorded (.captured (context.evidence config message)))
        (after.write (Ledger.captured (context.evidence config message))) :=
      undergoes_write (Ledger.captured_eq_record _) after
    exact asked.append shown.unfolds
  next error after called =>
    rw [called] at asked ⊢
    exact asked.append (.step (.remarked after _) (undergoes_log engine .warning _ _).unfolds)

theorem capture_unfolds (message : String) (world : World σ) :
    ∃ picture, (context.evidence config message).Pictured picture ∧
      world.Unfolds engine picture (world.capture engine config context message) :=
  ⟨_, (context.evidence config message).picture_pictured _ _,
    capture_pictures engine config context message world⟩

theorem proceed_unfolds (step : Step) (world : World σ) :
    ∃ rest,
      step.Follows config context .met rest (world.proceed engine config context step).1 ∧
      world.Unfolds engine rest (world.proceed engine config context step).2 := by
  obtain ⟨working, works, unfolds⟩ := perform_unfolds engine config context step world
  unfold proceed
  split
  next outcome after performed =>
    rw [performed] at works unfolds
    exact ⟨_, .reported works, unfolds⟩
  next after performed =>
    rw [performed] at works unfolds
    have passed := undergoes_signal engine context true step.message after
    exact ⟨_, .passed works, unfolds.append passed.unfolds⟩
  next error reported after performed =>
    rw [performed] at works unfolds
    have fault := fault_unfolds engine context step.message error.message after
    exact ⟨_, .failed works, unfolds.append fault⟩

theorem act_unfolds (step : Step) (immediate : step.strategy = .immediate) (world : World σ) :
    ∃ course,
      step.Goes config context course (world.act engine config context step).1 ∧
      world.Unfolds engine course (world.act engine config context step).2 := by
  obtain ⟨working, works, unfolds⟩ := perform_unfolds engine config context step world
  unfold act
  split
  next reported after performed =>
    rw [performed] at works unfolds
    cases reported with
    | none => exact ⟨_, .unreported immediate works, unfolds⟩
    | some outcome => exact ⟨_, .reported (.atOnce immediate) works, unfolds⟩
  next error reported after performed =>
    rw [performed] at works unfolds
    have fault := fault_unfolds engine context step.message error.message after
    exact ⟨_, .failed (.atOnce immediate) works, unfolds.append fault⟩

section

variable {engine config context} {step : Step} {condition : Condition} {world after : World σ}

theorem waitAndProceed_of_met (awaited : world.await engine config condition = (.met, after)) :
    world.waitAndProceed engine config context step condition =
      ((after.proceed engine config context step).1,
        step.info.elim (after.proceed engine config context step).2
          fun info => (after.proceed engine config context step).2.log .info info) := by
  unfold waitAndProceed
  rw [awaited]
  cases step.info <;> rfl

theorem waitAndProceed_of_failed {error : EngineError}
    (awaited : world.await engine config condition = (.failed error, after)) :
    world.waitAndProceed engine config context step condition =
      (.failed, step.info.elim (after.fault context step.message error.message)
        fun info => (after.fault context step.message error.message).log .info info) := by
  unfold waitAndProceed
  rw [awaited]
  cases step.info <;> rfl

theorem waitAndProceed_of_elapsed
    (awaited : world.await engine config condition = (.elapsed, after)) :
    world.waitAndProceed engine config context step condition =
      (.timedOut, step.info.elim
        (after.write (Ledger.timeout context.scenario context.index step.message))
        fun info => (after.write
          (Ledger.timeout context.scenario context.index step.message)).log .info info) := by
  unfold waitAndProceed
  rw [awaited]
  cases step.info <;> rfl

/-- A step with a wait has its last words once it has come to its outcome. -/
theorem lastWords_unfolds (waits : step.strategy = .wait condition) {history : List Occurrence}
    (unfolds : world.Unfolds engine history after) :
    world.Unfolds engine (history ++ step.lastWords)
      (step.info.elim after fun info => after.log .info info) := by
  unfold Step.lastWords
  rw [waits]
  cases step.info with
  | none =>
      rw [List.append_nil]
      exact unfolds
  | some info => exact unfolds.append (undergoes_log engine .info info after).unfolds

end

/-- A step goes on behind its wait as the end of the wait has it. -/
theorem waitAndProceed_follows (step : Step) {condition : Condition}
    (waits : step.strategy = .wait condition) (world : World σ) :
    ∃ rest,
      step.Follows config context (world.await engine config condition).1 rest
        (world.waitAndProceed engine config context step condition).1 ∧
      (world.await engine config condition).2.Unfolds engine (rest ++ step.lastWords)
        (world.waitAndProceed engine config context step condition).2 := by
  cases awaited : world.await engine config condition with
  | mk ending after =>
      cases ending with
      | met =>
          obtain ⟨rest, follows, gone⟩ := proceed_unfolds engine config context step after
          rw [waitAndProceed_of_met awaited]
          exact ⟨rest, follows, lastWords_unfolds waits gone⟩
      | failed error =>
          have gone := fault_unfolds engine context step.message error.message after
          rw [waitAndProceed_of_failed awaited]
          exact ⟨_, .unanswered, lastWords_unfolds waits gone⟩
      | elapsed =>
          have gone := timeout_unfolds engine context step.message after
          rw [waitAndProceed_of_elapsed awaited]
          exact ⟨_, .elapsed, lastWords_unfolds waits gone⟩

theorem execute_banner_unfolds (step : Step) (banner : step.strategy = .banner)
    (world : World σ) :
    (world.execute engine config context step).1 = none ∧
      world.Unfolds engine
        (.entered context.scenario context.index :: bannerHistory context.scenario)
        (world.execute engine config context step).2 := by
  simp only [execute, banner]
  exact ⟨trivial, .step (.entered world _ _) (banner_unfolds engine context.scenario _)⟩

theorem execute_immediate_unfolds (step : Step) (immediate : step.strategy = .immediate)
    (world : World σ) :
    ∃ course picture outcome,
      (world.execute engine config context step).1 = some outcome ∧
      step.Goes config context course outcome ∧
      (context.evidence config step.message).Pictured picture ∧
      world.Unfolds engine (.entered context.scenario context.index :: (course ++ picture))
        (world.execute engine config context step).2 := by
  obtain ⟨course, goes, gone⟩ :=
    act_unfolds engine config context step immediate
      (world.write (Ledger.enter context.scenario context.index))
  obtain ⟨picture, pictured, taken⟩ :=
    capture_unfolds engine config context step.message
      ((world.write (Ledger.enter context.scenario context.index)).act engine config context
        step).2
  simp only [execute, immediate]
  exact ⟨course, picture, _, rfl, goes, pictured,
    .step (.entered world _ _) (gone.append taken)⟩

/-- A step that waits goes as its wait does, and on from there; `Waits` is what is known of the
wait, which begins once the step has been entered. -/
theorem execute_wait_unfolds (step : Step) {condition : Condition} {world : World σ}
    {Waits : List Occurrence → WaitEnd → Prop} (waits : step.strategy = .wait condition)
    (awaits : let entered := world.write (Ledger.enter context.scenario context.index)
      ∃ waiting,
        Waits waiting (entered.await engine config condition).1 ∧
        ∃ elapsed, entered.Unfolds engine
          (waiting ++ waitRemark condition elapsed (entered.await engine config condition).1)
          (entered.await engine config condition).2) :
    ∃ waiting ending elapsed rest picture outcome,
      (world.execute engine config context step).1 = some outcome ∧
      Waits waiting ending ∧ step.Follows config context ending rest outcome ∧
      (context.evidence config step.message).Pictured picture ∧
      world.Unfolds engine
        (.entered context.scenario context.index ::
          (waiting ++ (waitRemark condition elapsed ending ++ rest) ++
            (step.lastWords ++ picture)))
        (world.execute engine config context step).2 := by
  obtain ⟨waiting, waited, elapsed, unfolds⟩ := awaits
  obtain ⟨rest, follows, gone⟩ :=
    waitAndProceed_follows engine config context step waits
      (world.write (Ledger.enter context.scenario context.index))
  obtain ⟨picture, pictured, taken⟩ :=
    capture_unfolds engine config context step.message
      ((world.write (Ledger.enter context.scenario context.index)).waitAndProceed engine
        config context step condition).2
  simp only [execute, waits]
  refine ⟨waiting, _, elapsed, rest, picture, _, rfl, waited, follows, pictured,
    .step (.entered world _ _) ?_⟩
  rw [← List.append_assoc, ← List.append_assoc, List.append_assoc _ rest]
  exact (unfolds.append gone).append taken

/-- A step that is run leaves behind what is foreseen for it. -/
theorem execute_unfolds (step : Step) (world : World σ) :
    ∃ history,
      step.Unrolls config context history (world.execute engine config context step).1 ∧
      world.Unfolds engine history (world.execute engine config context step).2 := by
  cases strategy : step.strategy with
  | banner =>
      obtain ⟨unsaid, unfolds⟩ :=
        execute_banner_unfolds engine config context step strategy world
      rw [unsaid]
      exact ⟨_, .banner strategy, unfolds⟩
  | wait condition =>
      obtain ⟨waiting, ending, elapsed, rest, picture, outcome, said, awaits, follows, pictured,
          unfolds⟩ :=
        execute_wait_unfolds engine config context step strategy
          (await_unfolds engine config condition _)
      rw [said]
      exact ⟨_, .step (by simp [strategy]) (follows.goes strategy awaits elapsed) pictured,
        unfolds⟩
  | immediate =>
      obtain ⟨course, picture, outcome, said, goes, pictured, unfolds⟩ :=
        execute_immediate_unfolds engine config context step strategy world
      rw [said]
      refine ⟨_, .step (by simp [strategy]) goes pictured, ?_⟩
      rw [Step.lastWords_of_immediate strategy, List.nil_append]
      exact unfolds

end World

end Rehearsal

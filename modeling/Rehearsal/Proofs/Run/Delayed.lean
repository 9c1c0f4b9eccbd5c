import Rehearsal.Proofs.Run.Capturing
import Rehearsal.Proofs.Run.Duration

/-!
Looking for a selector that is late, again and again.

The page counts the probes that are made in vain, and goes on counting when a wait runs out: what
one step does not get to see is left to the next ones.
-/

namespace Rehearsal

/-- The step looks for a selector and does nothing else. -/
structure Step.Seeks (selector : String) (step : Step) : Prop where
  strategy : step.strategy = .wait (.selector selector)
  callback : step.callback = none

theorem Action.am_seeks (message selector : String) (voice : Voice) :
    ((Action.am message selector).voiced voice).Seeks selector := ⟨rfl, rfl⟩

theorem Action.find_seeks (message selector : String) (voice : Voice) :
    ((Action.find message selector).voiced voice).Seeks selector := ⟨rfl, rfl⟩

namespace Page

/-- A page at an address on which there is nothing but a selector, and that only after so many
probes in vain. -/
def lacking (url selector : String) (probes : Nat) : Page :=
  ofFacts [.selectorAfter selector probes, .url url]

/-- The page once the selector has been found. -/
def having (url selector : String) : Page :=
  ofFacts [.selector selector, .url url]

/-- A page at an address on which a selector is found after so many probes in vain. -/
inductive Due (url selector : String) : Nat → Page → Prop where
  | absent (probes : Nat) : Due url selector probes (lacking url selector probes)
  | present : Due url selector 0 (having url selector)

variable {url selector : String} {page : Page}

theorem answer_lacking_succ (url selector : String) (probes : Nat) :
    (lacking url selector (probes + 1)).answer (.selectorExists selector) =
      (.ok false, lacking url selector probes) := by
  simp [lacking, ofFacts, learn, blank, answer, probe, Association.insert, Association.get?]

theorem answer_due (due : page.Due url selector 0) :
    page.answer (.selectorExists selector) = (.ok true, having url selector) := by
  cases due with
  | absent =>
      simp [lacking, having, ofFacts, learn, blank, answer, probe, withSelector,
        Association.insert, Association.get?]
  | present =>
      simp [having, ofFacts, learn, blank, answer, probe, withSelector, hasSelector,
        Association.get?]

theorem hasSelector_having (url selector : String) :
    (having url selector).hasSelector selector = true := by
  simp [having, ofFacts, learn, blank, withSelector, hasSelector]

theorem hasSelector_lacking (url selector : String) (probes : Nat) :
    (lacking url selector probes).hasSelector selector = false := rfl

theorem Due.of_succ {probes : Nat} (due : page.Due url selector (probes + 1)) :
    page = lacking url selector (probes + 1) := by
  cases due with
  | absent => rfl

theorem Due.captures {probes : Nat} (due : page.Due url selector probes) (path : String) :
    page.answer (.capture path) = (.ok (), page) := by
  cases due <;> rfl

end Page

/-- Probes for a selector in vain, with a rest behind each. -/
def vainProbes (selector : String) (interval probes : Nat) : List Occurrence :=
  (List.replicate probes
    [.answered (.selectorExists selector) 0 (.ok false), .rested interval]).flatten

theorem vainProbes_succ (selector : String) (interval probes : Nat) :
    vainProbes selector interval (probes + 1) =
      .answered (.selectorExists selector) 0 (.ok false) :: .rested interval ::
        vainProbes selector interval probes := by
  simp [vainProbes, List.replicate_succ]

@[simp]
theorem spent_vainProbes (selector : String) (interval probes : Nat) :
    spent (vainProbes selector interval probes) = probes * interval := by
  induction probes with
  | zero => simp [vainProbes]
  | succ probes inductionHypothesis =>
      rw [vainProbes_succ, spent_cons, spent_cons, inductionHypothesis, Nat.succ_mul]
      simp only [Occurrence.ms]
      omega

@[simp]
theorem signals_vainProbes (selector : String) (interval probes : Nat) :
    (vainProbes selector interval probes).filterMap Occurrence.signal? = [] := by
  induction probes with
  | zero => rfl
  | succ probes inductionHypothesis =>
      rw [vainProbes_succ, List.filterMap_cons, List.filterMap_cons, inductionHypothesis]
      rfl

namespace World

variable {url selector : String} {config : Config} {interval deadline fuel : Nat}
  {world : World Page}

/-- The world once a probe for the selector has left such a page behind. -/
def probed (selector : String) (page : Page) (world : World Page) : World Page :=
  { world with calls := world.calls.push (world.clock, .selectorExists selector), state := page }

/-- The world once a rest has followed such a probe. -/
def awaiting (selector : String) (page : Page) (interval : Nat) (world : World Page) :
    World Page :=
  { world.probed selector page with clock := world.clock + interval }

theorem call_selectorExists {found : Bool} {page : Page}
    (answers : world.state.answer (.selectorExists selector) = (.ok found, page)) :
    world.call Page.engine (.selectorExists selector) =
      (.ok found, world.probed selector page) := by
  simp [call, complete, begin, Page.engine, answers, probed]

theorem undergoes_probed {found : Bool} {page : Page}
    (answers : world.state.answer (.selectorExists selector) = (.ok found, page)) :
    world.Undergoes Page.engine (.answered (.selectorExists selector) 0 (.ok found))
      (world.probed selector page) := by
  have undergone : world.Undergoes Page.engine
      (.answered (.selectorExists selector) 0
        (world.call Page.engine (.selectorExists selector)).1)
      (world.call Page.engine (.selectorExists selector)).2 :=
    .answered world (.selectorExists selector)
  rwa [call_selectorExists answers] at undergone

theorem answers_probed {found : Bool} {page : Page}
    (answers : world.state.answer (.selectorExists selector) = (.ok found, page))
    (early : world.clock ≤ deadline) :
    Answers Page.engine (Condition.selector selector).probe deadline (.ok found) world
      (world.probed selector page) :=
  ⟨call_selectorExists answers, rfl, early⟩

theorem poll_of_found {page : Page}
    (answers : world.state.answer (.selectorExists selector) = (.ok true, page))
    (early : world.clock ≤ deadline) :
    world.poll Page.engine (.selector selector) interval deadline (fuel + 1) =
      (.met, world.probed selector page) := by
  rw [poll_of_answers (answers_probed answers early)]
  rfl

theorem poll_of_missed {page : Page}
    (answers : world.state.answer (.selectorExists selector) = (.ok false, page))
    (early : world.clock ≤ deadline) :
    world.poll Page.engine (.selector selector) interval deadline (fuel + 1) =
      if deadline < world.clock + interval then
        (.elapsed, { world.probed selector page with clock := deadline })
      else
        (world.awaiting selector page interval).poll Page.engine (.selector selector) interval
          deadline fuel := by
  rw [poll_of_answers (answers_probed answers early)]
  rfl

/-- A selector that is due in time is found. -/
theorem poll_finds {probes : Nat} (due : world.state.Due url selector probes)
    (timely : world.clock + probes * interval ≤ deadline) (enough : probes < fuel) :
    ∃ after,
      world.poll Page.engine (.selector selector) interval deadline fuel = (.met, after) ∧
      after.state = Page.having url selector ∧
      world.Unfolds Page.engine
        (vainProbes selector interval probes ++ [.answered (.selectorExists selector) 0 (.ok true)])
        after := by
  induction probes generalizing world fuel with
  | zero =>
      obtain ⟨fuel, rfl⟩ := Nat.exists_eq_succ_of_ne_zero (Nat.ne_of_gt enough)
      have found := Page.answer_due due
      exact ⟨_, poll_of_found found (by omega), rfl, (undergoes_probed found).unfolds⟩
  | succ probes inductionHypothesis =>
      obtain ⟨fuel, rfl⟩ := Nat.exists_eq_succ_of_ne_zero (Nat.ne_zero_of_lt enough)
      have missed : world.state.answer (.selectorExists selector) =
          (.ok false, Page.lacking url selector probes) := by
        rw [due.of_succ, Page.answer_lacking_succ]
      rw [Nat.succ_mul] at timely
      have early : ¬deadline < world.clock + interval := by omega
      have nearer : (world.awaiting selector (Page.lacking url selector probes)
          interval).state.Due url selector probes := .absent probes
      obtain ⟨after, polls, found, unfolds⟩ :=
        inductionHypothesis nearer (by simp only [awaiting]; omega) (Nat.lt_of_succ_lt_succ enough)
      refine ⟨after, ?_, found, ?_⟩
      · rw [poll_of_missed missed (by omega), if_neg early]
        exact polls
      · rw [vainProbes_succ]
        exact .step (undergoes_probed missed) (.step (.rested _ interval) unfolds)

/-- A wait runs out over a selector that is due later. -/
theorem poll_misses {rests probes : Nat}
    (state : world.state = Page.lacking url selector (rests + 1 + probes))
    (early : world.clock + rests * interval ≤ deadline)
    (late : deadline < world.clock + (rests + 1) * interval) (enough : rests < fuel) :
    ∃ after,
      world.poll Page.engine (.selector selector) interval deadline fuel = (.elapsed, after) ∧
      after.state = Page.lacking url selector probes ∧
      world.Unfolds Page.engine
        (vainProbes selector interval rests ++
          [.answered (.selectorExists selector) 0 (.ok false),
            .rested (deadline - (world.clock + rests * interval))])
        after := by
  induction rests generalizing world fuel with
  | zero =>
      obtain ⟨fuel, rfl⟩ := Nat.exists_eq_succ_of_ne_zero (Nat.ne_of_gt enough)
      have missed : world.state.answer (.selectorExists selector) =
          (.ok false, Page.lacking url selector probes) := by
        rw [state, Nat.add_comm, Page.answer_lacking_succ]
      have inTime : (world.probed selector (Page.lacking url selector probes)).clock ≤
          deadline := by
        simp only [probed]
        omega
      have passed : deadline < world.clock + interval := by omega
      rw [poll_of_missed missed inTime, if_pos passed, Nat.zero_mul, Nat.add_zero]
      exact ⟨_, rfl, rfl,
        .step (undergoes_probed missed) (undergoes_rested_until Page.engine inTime).unfolds⟩
  | succ rests inductionHypothesis =>
      obtain ⟨fuel, rfl⟩ := Nat.exists_eq_succ_of_ne_zero (Nat.ne_zero_of_lt enough)
      have missed : world.state.answer (.selectorExists selector) =
          (.ok false, Page.lacking url selector (rests + 1 + probes)) := by
        rw [state, Nat.add_right_comm (rests + 1), Page.answer_lacking_succ]
      rw [Nat.succ_mul] at early
      rw [Nat.succ_mul (rests + 1)] at late
      have again : ¬deadline < world.clock + interval := by omega
      have clock : (world.awaiting selector (Page.lacking url selector (rests + 1 + probes))
          interval).clock = world.clock + interval := rfl
      have instant : (world.awaiting selector (Page.lacking url selector (rests + 1 + probes))
          interval).clock + rests * interval = world.clock + (rests + 1) * interval := by
        rw [clock, Nat.succ_mul]
        omega
      have there : (world.awaiting selector (Page.lacking url selector (rests + 1 + probes))
          interval).state = Page.lacking url selector (rests + 1 + probes) := rfl
      obtain ⟨after, polls, left, unfolds⟩ :=
        inductionHypothesis there (by omega) (by omega) (Nat.lt_of_succ_lt_succ enough)
      rw [instant] at unfolds
      rw [poll_of_missed missed (by omega), if_neg again, vainProbes_succ]
      exact ⟨after, polls, left,
        .step (undergoes_probed missed) (.step (.rested _ interval) unfolds)⟩

/-- A picture of such a page is taken at once. -/
theorem capture_takes (config : Config) (context : Context) (message : String) {probes : Nat}
    (due : world.state.Due url selector probes) :
    world.Unfolds Page.engine ((context.evidence config message).picture 0 (.ok ()))
        (world.capture Page.engine config context message) ∧
      (world.capture Page.engine config context message).state = world.state := by
  have taken := due.captures (context.evidence config message).path
  have called : world.call Page.engine (.capture (context.evidence config message).path) =
      (.ok (), { world with
        calls := world.calls.push (world.clock,
          .capture (context.evidence config message).path) }) := by
    simp [call, complete, begin, Page.engine, taken]
  have pictures := capture_pictures Page.engine config context message world
  simp only [called] at pictures
  refine ⟨pictures, ?_⟩
  simp only [Context.evidence] at called
  simp only [capture, called]
  rfl

/-- Behind its wait a step has its last words, and its picture is taken. -/
theorem execute_ends {item : Scheduled} {condition : Condition} {outcome : Outcome}
    {behind : World Page} {history : List Occurrence} {probes : Nat}
    (waits : item.step.strategy = .wait condition)
    (gone : (world.write (Ledger.enter item.context.scenario item.context.index)).Unfolds
      Page.engine history behind)
    (ends : (world.write (Ledger.enter item.context.scenario
        item.context.index)).waitAndProceed Page.engine config item.context item.step condition =
      (outcome, item.step.info.elim behind fun info => behind.log .info info))
    (due : behind.state.Due url selector probes) :
    world.Unfolds Page.engine
        (.entered item.context.scenario item.context.index ::
          (history ++ (item.step.lastWords ++
            (item.context.evidence config item.step.message).picture 0 (.ok ()))))
        (world.execute Page.engine config item.context item.step).2 ∧
      (world.execute Page.engine config item.context item.step).2.state = behind.state := by
  have said := lastWords_unfolds waits gone
  have same : (item.step.info.elim behind fun info => behind.log .info info).state =
      behind.state := by
    cases item.step.info <;> rfl
  rw [← same] at due
  obtain ⟨pictured, kept⟩ := capture_takes config item.context item.step.message due
  simp only [execute, waits, ends]
  refine ⟨.step (.entered world _ _) ?_, kept.trans same⟩
  rw [← List.append_assoc]
  exact said.append pictured

end World

/-- What a step leaves behind that finds its selector after so many probes in vain. -/
def Scheduled.found (config : Config) (selector : String) (probes : Nat) (item : Scheduled) :
    List Occurrence :=
  .entered item.context.scenario item.context.index ::
    (vainProbes selector config.pollIntervalMs probes ++
      [.answered (.selectorExists selector) 0 (.ok true),
        .remarked (World.metLine (.selector selector) (probes * config.pollIntervalMs)),
        .recorded (.passed item.context.scenario item.context.index item.step.message)] ++
      (item.step.lastWords ++
        (item.context.evidence config item.step.message).picture 0 (.ok ())))

/-- What a step leaves behind that does not find its selector in time. -/
def Scheduled.missed (config : Config) (selector : String) (item : Scheduled) :
    List Occurrence :=
  .entered item.context.scenario item.context.index ::
    (vainProbes selector config.pollIntervalMs (config.timeoutMs / config.pollIntervalMs) ++
      [.answered (.selectorExists selector) 0 (.ok false),
        .rested (config.timeoutMs % config.pollIntervalMs)] ++
      timeoutHistory item.context item.step.message ++
      (item.step.lastWords ++
        (item.context.evidence config item.step.message).picture 0 (.ok ())))

namespace World

variable {url selector : String} {config : Config} {item : Scheduled} {world : World Page}

theorem await_finds (positive : 0 < config.pollIntervalMs) {probes : Nat}
    (due : world.state.Due url selector probes)
    (timely : probes * config.pollIntervalMs ≤ config.timeoutMs) :
    ∃ after,
      world.await Page.engine config (.selector selector) = (.met, after) ∧
      after.state = Page.having url selector ∧
      world.Unfolds Page.engine
        (vainProbes selector config.pollIntervalMs probes ++
          [.answered (.selectorExists selector) 0 (.ok true),
            .remarked (metLine (.selector selector) (probes * config.pollIntervalMs))])
        after := by
  have few : probes < config.timeoutMs + 1 :=
    Nat.lt_succ_of_le (Nat.le_trans (Nat.le_mul_of_pos_right probes positive) timely)
  obtain ⟨after, polls, state, unfolds⟩ :=
    poll_finds due (Nat.add_le_add_left timely world.clock) few
  have elapsed : after.clock - world.clock = probes * config.pollIntervalMs := by
    rw [unfolds.clock]
    simp [Occurrence.ms]
  refine ⟨after.write (Ledger.remark (metLine (.selector selector)
    (probes * config.pollIntervalMs))), ?_, state, ?_⟩
  · simp only [await, Condition.bound, polls, elapsed]
  · rw [List.append_cons]
    exact unfolds.append (Undergoes.remarked after _).unfolds

theorem await_misses (positive : 0 < config.pollIntervalMs) {probes : Nat}
    (state : world.state = Page.lacking url selector
      (config.timeoutMs / config.pollIntervalMs + 1 + probes)) :
    ∃ after,
      world.await Page.engine config (.selector selector) = (.elapsed, after) ∧
      after.state = Page.lacking url selector probes ∧
      world.Unfolds Page.engine
        (vainProbes selector config.pollIntervalMs (config.timeoutMs / config.pollIntervalMs) ++
          [.answered (.selectorExists selector) 0 (.ok false),
            .rested (config.timeoutMs % config.pollIntervalMs)])
        after := by
  have rests := Nat.div_add_mod' config.timeoutMs config.pollIntervalMs
  have left := Nat.mod_lt config.timeoutMs positive
  have few : config.timeoutMs / config.pollIntervalMs < config.timeoutMs + 1 :=
    Nat.lt_succ_of_le (Nat.div_le_self _ _)
  have late : world.clock + config.timeoutMs <
      world.clock + (config.timeoutMs / config.pollIntervalMs + 1) * config.pollIntervalMs := by
    rw [Nat.succ_mul]
    omega
  obtain ⟨after, polls, state, unfolds⟩ :=
    poll_misses state (Nat.add_le_add_left (Nat.div_mul_le_self _ _) world.clock) late few
  have leftOver : world.clock + config.timeoutMs -
      (world.clock + config.timeoutMs / config.pollIntervalMs * config.pollIntervalMs) =
        config.timeoutMs % config.pollIntervalMs := by
    omega
  rw [leftOver] at unfolds
  refine ⟨after, ?_, state, unfolds⟩
  simp only [await, Condition.bound, polls]

/-- A step that finds its selector in time passes. -/
theorem execute_finds (positive : 0 < config.pollIntervalMs) (seeks : item.step.Seeks selector)
    {probes : Nat} (due : world.state.Due url selector probes)
    (timely : probes * config.pollIntervalMs ≤ config.timeoutMs) :
    world.Unfolds Page.engine (item.found config selector probes)
        (world.execute Page.engine config item.context item.step).2 ∧
      (world.execute Page.engine config item.context item.step).2.state =
        Page.having url selector := by
  have entered : (world.write (Ledger.enter item.context.scenario
      item.context.index)).state.Due url selector probes := due
  obtain ⟨after, awaited, state, unfolds⟩ := await_finds positive entered timely
  have proceeds : after.proceed Page.engine config item.context item.step =
      (.passed, after.signal item.context true item.step.message) := by
    simp only [proceed, perform, seeks.callback]
  have ends : (world.write (Ledger.enter item.context.scenario
        item.context.index)).waitAndProceed Page.engine config item.context item.step
          (.selector selector) =
      (.passed, item.step.info.elim (after.signal item.context true item.step.message)
        fun info => (after.signal item.context true item.step.message).log .info info) := by
    rw [waitAndProceed_of_met awaited, proceeds]
  have left : (after.signal item.context true item.step.message).state.Due url selector 0 := by
    rw [show (after.signal item.context true item.step.message).state = _ from state]
    exact .present
  have gone := unfolds.append
    (undergoes_signal Page.engine item.context true item.step.message after).unfolds
  obtain ⟨unfolds, kept⟩ := execute_ends seeks.strategy gone ends left
  refine ⟨?_, kept.trans state⟩
  simp only [List.append_assoc] at unfolds
  simp only [Scheduled.found, List.append_assoc]
  exact unfolds

/-- A step whose selector is due later times out, and the probes that it has made count. -/
theorem execute_misses (positive : 0 < config.pollIntervalMs) (seeks : item.step.Seeks selector)
    {probes : Nat}
    (state : world.state = Page.lacking url selector
      (config.timeoutMs / config.pollIntervalMs + 1 + probes)) :
    world.Unfolds Page.engine (item.missed config selector)
        (world.execute Page.engine config item.context item.step).2 ∧
      (world.execute Page.engine config item.context item.step).2.state =
        Page.lacking url selector probes := by
  have entered : (world.write (Ledger.enter item.context.scenario item.context.index)).state =
      Page.lacking url selector (config.timeoutMs / config.pollIntervalMs + 1 + probes) := state
  obtain ⟨after, awaited, state, unfolds⟩ := await_misses positive entered
  have left : (after.write (Ledger.timeout item.context.scenario item.context.index
      item.step.message)).state.Due url selector probes := by
    rw [show (after.write (Ledger.timeout item.context.scenario item.context.index
      item.step.message)).state = _ from state]
    exact .absent probes
  have gone := unfolds.append
    (timeout_unfolds Page.engine item.context item.step.message after)
  obtain ⟨unfolds, kept⟩ :=
    execute_ends seeks.strategy gone (waitAndProceed_of_elapsed awaited) left
  exact ⟨unfolds, kept.trans state⟩

end World

/-- The step waits for something. -/
def Scheduled.waits (item : Scheduled) : Bool :=
  item.step.strategy.condition?.isSome

theorem Step.Seeks.waits {selector : String} {item : Scheduled}
    (seeks : item.step.Seeks selector) : item.waits = true := by
  rw [Scheduled.waits, seeks.strategy]
  rfl

theorem Scheduled.not_waits_of_banner {item : Scheduled}
    (banner : item.step.strategy = .banner) : item.waits = false := by
  rw [waits, banner]
  rfl

/-- How many probes a wait makes that runs out. -/
def Config.probes (config : Config) : Nat :=
  config.timeoutMs / config.pollIntervalMs + 1

/-- What a pipeline leaves behind that looks for a selector again and again, if the selector is due
after `probes` probes in vain and there have been `past` waits for it: as long as those probes fill
whole waits, the steps time out; the next step makes the probes that are left over, and those behind
it make none in vain. -/
inductive Searches (config : Config) (selector : String) (probes : Nat) :
    Nat → List Scheduled → List (List Occurrence) → Prop where
  | done {past : Nat} : Searches config selector probes past [] []
  | banner {past : Nat} {item : Scheduled} {rest : List Scheduled}
      {histories : List (List Occurrence)} :
      item.step.strategy = .banner →
      Searches config selector probes past rest histories →
      Searches config selector probes past (item :: rest)
        ((.entered item.context.scenario item.context.index ::
          bannerHistory item.context.scenario) :: histories)
  | missed {past : Nat} {item : Scheduled} {rest : List Scheduled}
      {histories : List (List Occurrence)} :
      item.step.Seeks selector → past < probes / config.probes →
      Searches config selector probes (past + 1) rest histories →
      Searches config selector probes past (item :: rest)
        (item.missed config selector :: histories)
  | found {past : Nat} {item : Scheduled} {rest : List Scheduled}
      {histories : List (List Occurrence)} :
      item.step.Seeks selector → probes / config.probes ≤ past →
      Searches config selector probes (past + 1) rest histories →
      Searches config selector probes past (item :: rest)
        (item.found config selector
          (if past = probes / config.probes then probes % config.probes else 0) :: histories)

section

variable {config : Config} {selector : String} {item : Scheduled}

theorem spent_lastWords (step : Step) : spent step.lastWords = 0 := by
  unfold Step.lastWords
  split <;> rfl

theorem spent_found (probes : Nat) :
    spent (item.found config selector probes) = probes * config.pollIntervalMs := by
  simp [Scheduled.found, spent_lastWords, Evidence.picture, Occurrence.ms]

theorem spent_missed : spent (item.missed config selector) = config.timeoutMs := by
  have rests := Nat.div_add_mod' config.timeoutMs config.pollIntervalMs
  simpa [Scheduled.missed, spent_lastWords, Evidence.picture, timeoutHistory, Occurrence.ms]
    using rests

theorem signals_found (probes : Nat) :
    (item.found config selector probes).filterMap Occurrence.signal? =
      [(.passed, item.context.scenario, item.context.index)] := by
  simp [Scheduled.found, Step.signals_lastWords, Evidence.picture, List.filterMap_cons,
    Event.signal?]

theorem signals_missed :
    (item.missed config selector).filterMap Occurrence.signal? =
      [(.timedOut, item.context.scenario, item.context.index)] := by
  simp [Scheduled.missed, Step.signals_lastWords, Evidence.picture, timeoutHistory,
    List.filterMap_cons, Event.signal?]

variable {probes past : Nat} {pipeline : List Scheduled} {histories : List (List Occurrence)}

/-- The steps that time out come before those that pass. -/
theorem Searches.outcomes (searches : Searches config selector probes past pipeline histories) :
    (histories.flatten.filterMap Occurrence.signal?).map Prod.fst =
      List.replicate (min (pipeline.countP Scheduled.waits) (probes / config.probes - past))
          .timedOut ++
        List.replicate (pipeline.countP Scheduled.waits - (probes / config.probes - past))
          .passed := by
  induction searches with
  | done => simp
  | banner banner _ inductionHypothesis =>
      rw [List.flatten_cons, List.filterMap_append, List.map_append, inductionHypothesis,
        List.countP_cons_of_neg (by simp [Scheduled.not_waits_of_banner banner])]
      rfl
  | @missed past item rest histories seeks early _ inductionHypothesis =>
      obtain ⟨left, more⟩ : ∃ left, probes / config.probes - past = left + 1 :=
        Nat.exists_eq_succ_of_ne_zero (by omega)
      have fewer : probes / config.probes - (past + 1) = left := by omega
      rw [List.flatten_cons, List.filterMap_append, List.map_append, inductionHypothesis,
        List.countP_cons_of_pos seeks.waits, signals_missed, fewer, more, Nat.succ_min_succ,
        Nat.succ_sub_succ, List.replicate_succ]
      rfl
  | @found past item rest histories seeks late _ inductionHypothesis =>
      have none : probes / config.probes - past = 0 := Nat.sub_eq_zero_of_le late
      have behind : probes / config.probes - (past + 1) = 0 := by omega
      rw [List.flatten_cons, List.filterMap_append, List.map_append, inductionHypothesis,
        List.countP_cons_of_pos seeks.waits, signals_found, none, behind]
      simp [List.replicate_succ]

theorem Searches.spent_eq (searches : Searches config selector probes past pipeline histories) :
    spent histories.flatten =
      min (pipeline.countP Scheduled.waits) (probes / config.probes - past) * config.timeoutMs +
        if past ≤ probes / config.probes ∧
            probes / config.probes - past < pipeline.countP Scheduled.waits then
          probes % config.probes * config.pollIntervalMs
        else 0 := by
  induction searches with
  | done => simp
  | banner banner _ inductionHypothesis =>
      rw [List.flatten_cons, spent_append, inductionHypothesis,
        List.countP_cons_of_neg (by simp [Scheduled.not_waits_of_banner banner])]
      simp [bannerHistory, Occurrence.ms]
  | @missed past item rest histories seeks early _ inductionHypothesis =>
      obtain ⟨left, more⟩ : ∃ left, probes / config.probes - past = left + 1 :=
        Nat.exists_eq_succ_of_ne_zero (by omega)
      have fewer : probes / config.probes - (past + 1) = left := by omega
      rw [List.flatten_cons, spent_append, spent_missed, inductionHypothesis,
        List.countP_cons_of_pos seeks.waits, fewer, more, Nat.succ_min_succ, Nat.succ_mul]
      have next : past + 1 ≤ probes / config.probes := early
      simp only [next, Nat.le_of_lt early, true_and, Nat.add_lt_add_iff_right]
      omega
  | @found past item rest histories seeks late _ inductionHypothesis =>
      have none : probes / config.probes - past = 0 := Nat.sub_eq_zero_of_le late
      have behind : probes / config.probes - (past + 1) = 0 := by omega
      have passed : ¬past + 1 ≤ probes / config.probes := by omega
      rw [List.flatten_cons, spent_append, spent_found, inductionHypothesis,
        List.countP_cons_of_pos seeks.waits, none, behind]
      simp only [passed, false_and, if_false]
      by_cases here : past = probes / config.probes
      · rw [if_pos here, if_pos ⟨Nat.le_of_eq here, Nat.zero_lt_succ _⟩]
        simp
      · have later : ¬past ≤ probes / config.probes := by omega
        rw [if_neg here, if_neg fun both => later both.1]
        simp

end

/-- The page behind so many waits for the selector. -/
def Page.behind (config : Config) (url selector : String) (probes past : Nat) : Page :=
  if past ≤ probes / config.probes then lacking url selector (probes - past * config.probes)
  else having url selector

namespace World

variable {url selector : String} {config : Config} {item : Scheduled} {world : World Page}
  {probes past : Nat}

theorem execute_banner_keeps (banner : item.step.strategy = .banner) :
    (world.execute Page.engine config item.context item.step).2.state = world.state := by
  simp only [execute, banner]
  rfl

/-- The next wait goes by the number of those that have been before. -/
theorem execute_seeks (positive : 0 < config.pollIntervalMs) (seeks : item.step.Seeks selector)
    (state : world.state = Page.behind config url selector probes past) :
    ∃ history,
      (past < probes / config.probes ∧ history = item.missed config selector ∨
        probes / config.probes ≤ past ∧
          history = item.found config selector
            (if past = probes / config.probes then probes % config.probes else 0)) ∧
      world.Unfolds Page.engine history
        (world.execute Page.engine config item.context item.step).2 ∧
      (world.execute Page.engine config item.context item.step).2.state =
        Page.behind config url selector probes (past + 1) := by
  have probing : 0 < config.probes := Nat.succ_pos _
  have whole := Nat.div_add_mod' probes config.probes
  rcases Nat.lt_trichotomy past (probes / config.probes) with early | rfl | late
  · have enough : (past + 1) * config.probes ≤ probes :=
      (Nat.le_div_iff_mul_le probing).mp early
    rw [Nat.succ_mul] at enough
    have split : probes - past * config.probes =
        config.probes + (probes - (past + 1) * config.probes) := by
      rw [Nat.succ_mul]
      omega
    rw [Page.behind, if_pos (Nat.le_of_lt early), split] at state
    obtain ⟨unfolds, left⟩ := execute_misses positive seeks state
    refine ⟨_, .inl ⟨early, rfl⟩, unfolds, ?_⟩
    rw [left, Page.behind, if_pos (Nat.succ_le_of_lt early)]
  · have leftOver : probes - probes / config.probes * config.probes = probes % config.probes := by
      omega
    have due : world.state.Due url selector (probes % config.probes) := by
      rw [state, Page.behind, if_pos (Nat.le_refl _), leftOver]
      exact .absent _
    have fits : probes % config.probes ≤ config.timeoutMs / config.pollIntervalMs :=
      Nat.le_of_lt_succ (Nat.mod_lt probes probing)
    obtain ⟨unfolds, left⟩ :=
      execute_finds positive seeks due ((Nat.le_div_iff_mul_le positive).mp fits)
    refine ⟨_, .inr ⟨Nat.le_refl _, rfl⟩, ?_, ?_⟩
    · rw [if_pos rfl]
      exact unfolds
    · rw [left, Page.behind, if_neg (Nat.not_succ_le_self _)]
  · have due : world.state.Due url selector 0 := by
      rw [state, Page.behind, if_neg (Nat.not_le_of_lt late)]
      exact .present
    obtain ⟨unfolds, left⟩ := execute_finds positive seeks due (by omega)
    refine ⟨_, .inr ⟨Nat.le_of_lt late, rfl⟩, ?_, ?_⟩
    · rw [if_neg (Nat.ne_of_gt late)]
      exact unfolds
    · have further : ¬past + 1 ≤ probes / config.probes := by omega
      rw [left, Page.behind, if_neg further]

theorem runSteps_searches (positive : 0 < config.pollIntervalMs) {pipeline : List Scheduled}
    (seek : ∀ item ∈ pipeline, item.step.strategy = .banner ∨ item.step.Seeks selector)
    (state : world.state = Page.behind config url selector probes past) :
    ∃ histories,
      Searches config selector probes past pipeline histories ∧
      world.Unfolds Page.engine histories.flatten
        (world.runSteps Page.engine config pipeline) ∧
      (world.runSteps Page.engine config pipeline).state =
        Page.behind config url selector probes (past + pipeline.countP Scheduled.waits) := by
  induction pipeline generalizing world past with
  | nil => exact ⟨[], .done, .done world, state⟩
  | cons item rest inductionHypothesis =>
      obtain ⟨first, others⟩ := List.forall_mem_cons.mp seek
      rcases first with banner | seeks
      · have kept : (world.execute Page.engine config item.context item.step).2.state =
            Page.behind config url selector probes past :=
          (execute_banner_keeps banner).trans state
        obtain ⟨-, said⟩ :=
          execute_banner_unfolds Page.engine config item.context item.step banner world
        obtain ⟨histories, searches, unfolds, ended⟩ := inductionHypothesis others kept
        refine ⟨_, .banner banner searches, said.append unfolds, ?_⟩
        rw [List.countP_cons_of_neg (by simp [Scheduled.not_waits_of_banner banner])]
        exact ended
      · obtain ⟨history, goes, gone, next⟩ := execute_seeks positive seeks state
        obtain ⟨histories, searches, unfolds, ended⟩ := inductionHypothesis others next
        rw [Nat.add_assoc, Nat.add_comm 1] at ended
        rw [List.countP_cons_of_pos seeks.waits]
        rcases goes with ⟨early, rfl⟩ | ⟨late, rfl⟩
        · exact ⟨_, .missed seeks early searches, gone.append unfolds, ended⟩
        · exact ⟨_, .found seeks late searches, gone.append unfolds, ended⟩

end World

/-- A ledger counts what the steps are told to have come to. -/
theorem Ledger.counts_writeAll (history : List Occurrence) (ledger : Ledger) :
    let told := (history.filterMap Occurrence.signal?).map Prod.fst
    (ledger.writeAll history).counts =
      (ledger.passed + told.count .passed, ledger.failed + told.count .failed,
        ledger.timedOut + told.count .timedOut) := by
  induction history generalizing ledger with
  | nil => rfl
  | cons occurrence rest inductionHypothesis =>
      simp only [writeAll_cons, inductionHypothesis]
      cases occurrence with
      | recorded event =>
          have counted := counts_record event ledger
          simp only [counts, Prod.mk.injEq] at counted
          cases event <;>
            simp [Occurrence.write, counted, count, Event.signal?, List.filterMap_cons] <;> omega
      | answered | dropped | rested | entered | remarked | noted =>
          simp [Occurrence.write, List.filterMap_cons, enter, remark]

theorem Ledger.counts_finish (time : Nat → String) (ledger : Ledger) :
    ((ledger.finish time).passed, (ledger.finish time).failed, (ledger.finish time).timedOut) =
      ledger.counts := rfl

/-- A page makes nothing of it that the run is over. -/
theorem World.state_drive (config : Config) (suite : Suite) (world : World Page) :
    (world.drive Page.engine config suite).state =
      (world.emptied Page.engine config suite).state := by
  obtain ⟨lines, same⟩ := shutDown_eq Page.engine (world.emptied Page.engine config suite)
  have ended : (world.drive Page.engine config suite).state =
      ((world.emptied Page.engine config suite).shutDown Page.engine).state := rfl
  rw [ended, same]
  rfl

namespace Page

variable {url selector : String}

/-- Probes in vain bring the selector nearer. -/
theorem probed_lacking (url selector : String) (past left : Nat) :
    Page.engine.probed (.selector selector) past (lacking url selector (past + left)) =
      lacking url selector left := by
  induction past with
  | zero => rw [Nat.zero_add, Engine.probed]
  | succ past inductionHypothesis =>
      have missed : (Page.engine.answer (Condition.selector selector).probe
          (Page.engine.accept (Condition.selector selector).probe
            (lacking url selector (past + 1 + left)))).2 = lacking url selector (past + left) := by
        rw [Nat.add_right_comm]
        exact congrArg Prod.snd (answer_lacking_succ url selector (past + left))
      rw [Engine.probed, missed, inductionHypothesis]

theorem course_lacking (url selector : String) (probes : Nat) :
    (Page.engine.course (.selector selector) (lacking url selector probes)).Decides probes ∧
      (Page.engine.course (.selector selector) (lacking url selector probes)).answer probes =
        .ok true := by
  have found : (Page.engine.course (.selector selector) (lacking url selector probes)).answer
      probes = .ok true := by
    have there := probed_lacking url selector probes 0
    have due : (lacking url selector 0).Due url selector 0 := .absent 0
    have answers := answer_due due
    simp only [Engine.course, Nat.add_zero] at there ⊢
    rw [there]
    exact congrArg (fun answered => answered.1.map id) answers
  refine ⟨⟨?_, by rw [found]; simp⟩, found⟩
  intro past early
  obtain ⟨left, rfl⟩ : ∃ left, probes = past + (left + 1) := ⟨probes - past - 1, by omega⟩
  have there := probed_lacking url selector past (left + 1)
  simp only [Engine.course]
  rw [there]
  exact congrArg (fun answered => answered.1.map id) (answer_lacking_succ url selector left)

/-- How a run comes out that looks again and again for a selector that is due after so many probes
in vain. -/
structure Delays (config : Config) (entryUrl selector : String) (probes : Nat)
    (pipeline : List Scheduled) (histories : List (List Occurrence)) (begun after : World Page) :
    Prop where
  comprises : World.Comprises Page.engine entryUrl histories begun after
  steps : Searches config selector probes 0 pipeline histories
  /-- As many steps time out as whole waits go by in vain, and then all others pass. -/
  outcomes : (histories.flatten.filterMap Occurrence.signal?).map Prod.fst =
    List.replicate (min (pipeline.countP Scheduled.waits) (probes / config.probes)) .timedOut ++
      List.replicate (pipeline.countP Scheduled.waits -
        min (pipeline.countP Scheduled.waits) (probes / config.probes)) .passed
  counts : ∀ time, (after.report time).failed = 0 ∧
    (after.report time).timedOut =
      min (pipeline.countP Scheduled.waits) (probes / config.probes) ∧
    (after.report time).passed =
      pipeline.countP Scheduled.waits -
        min (pipeline.countP Scheduled.waits) (probes / config.probes)
  found : probes / config.probes < pipeline.countP Scheduled.waits →
    after.clock = begun.clock + (probes / config.probes * config.timeoutMs +
      probes % config.probes * config.pollIntervalMs) ∧
    after.state.hasSelector selector = true
  /-- The selector is not there yet, and the next wait would have to make the probes that are
  left. -/
  missing : pipeline.countP Scheduled.waits ≤ probes / config.probes →
    after.clock = begun.clock + pipeline.countP Scheduled.waits * config.timeoutMs ∧
    after.state.hasSelector selector = false ∧
    let left := probes - pipeline.countP Scheduled.waits * config.probes
    let course := Page.engine.course (.selector selector) after.state
    course.Decides left ∧ course.answer left = .ok true

/-- A selector that is late is awaited by one step after the other: those for which it comes too
late time out, the next one passes once it is there, and it stays there for all that come behind. -/
theorem ofFacts_delays (config : Config) (positive : 0 < config.pollIntervalMs)
    (entryUrl selector : String) (probes : Nat) (suite : Suite)
    (seek : ∀ item ∈ suite.pipeline,
      item.step.strategy = .banner ∨ item.step.Seeks selector)
    (clock : Nat) (notebook : Notebook) :
    ∃ after histories,
      World.run Page.engine config entryUrl suite
          (.fresh (ofFacts [.selectorAfter selector probes]) clock notebook) = (.ok (), after) ∧
      Delays config entryUrl selector probes suite.pipeline histories
        (.fresh (ofFacts [.selectorAfter selector probes]) clock notebook) after := by
  let begun : World Page := .fresh (ofFacts [.selectorAfter selector probes]) clock notebook
  let started := (begun.tell suite.trace).started Page.engine entryUrl
  have starts : Page.engine.Starts entryUrl begun.state := rfl
  have ready : Page.engine.Starts entryUrl (begun.tell suite.trace).state := starts
  have state : (started.tell #[World.runningLine suite]).state =
      behind config entryUrl selector probes 0 := by
    rw [behind, if_pos (Nat.zero_le _), Nat.zero_mul, Nat.sub_zero]
    rfl
  obtain ⟨histories, searches, unfolds, left⟩ := World.runSteps_searches positive seek state
  obtain ⟨ran, comprises⟩ := World.run_comprises Page.engine config suite starts
    (World.start_of_starts ready) unfolds
  have told := searches.outcomes
  have rest : suite.pipeline.countP Scheduled.waits - probes / config.probes =
      suite.pipeline.countP Scheduled.waits -
        min (suite.pipeline.countP Scheduled.waits) (probes / config.probes) := by
    omega
  rw [Nat.sub_zero, rest] at told
  have clock : (started.drive Page.engine config suite).clock =
      begun.clock + spent histories.flatten :=
    (World.clock_drive Page.engine config suite started).trans unfolds.clock
  rw [searches.spent_eq, Nat.sub_zero] at clock
  have ended : (started.drive Page.engine config suite).state =
      behind config entryUrl selector probes (0 + suite.pipeline.countP Scheduled.waits) :=
    (World.state_drive config suite started).trans left
  rw [Nat.zero_add, behind] at ended
  refine ⟨_, histories, ran, comprises, searches, told, ?_, ?_, ?_⟩
  · intro time
    have kept : (started.emptied Page.engine config suite).ledger =
        (started.tell #[World.runningLine suite]).ledger.writeAll histories.flatten :=
      unfolds.ledger
    have counted := Ledger.counts_finish time
      ((started.tell #[World.runningLine suite]).ledger.writeAll histories.flatten)
    rw [Ledger.counts_writeAll, told] at counted
    simp only [List.count_append, List.count_replicate, Prod.mk.injEq] at counted
    obtain ⟨passed, failed, timedOut⟩ := counted
    rw [World.report_drive, kept]
    exact ⟨failed, timedOut.trans (Nat.zero_add _),
      passed.trans ((Nat.zero_add _).trans (Nat.zero_add _))⟩
  · intro early
    rw [clock, ended, if_neg (Nat.not_le_of_lt early), Nat.min_eq_right (Nat.le_of_lt early),
      if_pos ⟨Nat.zero_le _, early⟩]
    exact ⟨rfl, hasSelector_having entryUrl selector⟩
  · intro late
    rw [clock, ended, if_pos late, Nat.min_eq_left late,
      if_neg fun both => Nat.not_lt_of_le late both.2]
    exact ⟨rfl, hasSelector_lacking entryUrl selector _, course_lacking entryUrl selector _⟩

/-- A guest who looks for the soup four times, a quarter of a second each. -/
def hungry : Suite :=
  Suite.empty.scenario "Lunch" [
    (Action.am "at the table" "#soup").voiced .given,
    (Action.find "the soup" "#soup").voiced .when,
    (Action.find "the soup" "#soup").voiced .and,
    (Action.find "the soup" "#soup").voiced .then]

def quarter : Config := { Config.default with timeoutMs := 250 }

theorem hungry_seeks :
    ∀ item ∈ hungry.pipeline, item.step.strategy = .banner ∨ item.step.Seeks "#soup" := by
  refine ((Suite.empty_only fun step => step.strategy = .banner ∨
    step.Seeks "#soup").scenario (.inl rfl) "Lunch" ?_).scheduled
  intro step membership
  simp only [List.mem_cons, List.not_mem_nil, or_false] at membership
  rcases membership with rfl | rfl | rfl | rfl
  · exact .inr (Action.am_seeks "at the table" "#soup" .given)
  · exact .inr (Action.find_seeks "the soup" "#soup" .when)
  · exact .inr (Action.find_seeks "the soup" "#soup" .and)
  · exact .inr (Action.find_seeks "the soup" "#soup" .then)

/-- Three probes fit into a wait, so that the soup, which is there for the eighth, is found by the
third look for it. -/
theorem hungry_delays :
    0 < quarter.pollIntervalMs ∧ hungry.pipeline.countP Scheduled.waits = 4 ∧
      7 / quarter.probes = 2 ∧
      ∃ after histories,
        World.run Page.engine quarter "/menu" hungry
            (.fresh (ofFacts [.selectorAfter "#soup" 7]) 0 .empty) = (.ok (), after) ∧
        Delays quarter "/menu" "#soup" 7 hungry.pipeline histories
          (.fresh (ofFacts [.selectorAfter "#soup" 7]) 0 .empty) after :=
  ⟨by decide, by decide, by decide,
    ofFacts_delays quarter (by decide) "/menu" "#soup" 7 hungry hungry_seeks 0 .empty⟩

example :
    (World.run Page.engine quarter "/menu" hungry
      (.fresh (ofFacts [.selectorAfter "#soup" 7]) 0 .empty)).2.clock = 600 := by
  decide +kernel

end Page

end Rehearsal

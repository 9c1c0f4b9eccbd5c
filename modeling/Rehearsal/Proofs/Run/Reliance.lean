import Rehearsal.Proofs.Association
import Rehearsal.Proofs.Run.Capturing
import Rehearsal.Proofs.Run.Reporting
import Rehearsal.Proofs.Step.Noting

/-!
What a wait has established can be relied on.

A page never takes back what it has shown: it only gains selectors, and none that is no longer late
comes to be late again.  So whatever a step does behind its wait succeeds, and a step fails only if
it is there to check something.
-/

namespace Rehearsal

/-- A condition that has once been met assures a call: it succeeds from then on. -/
inductive Condition.Assures : Condition → Call → Prop where
  | seen (selector : String) : Assures (.selector selector) (.selectorExists selector)
  | fill (selector : String) (form : FormData) (submit : Bool) :
      Assures (.selector selector) (.fill selector form submit)
  | click (selector : String) : Assures (.selector selector) (.click selector)
  | read (text : String) : Assures (.text text) (.textPresent text)
  | label (text tag : String) : Assures (.text text) (.clickLabel text tag)
  | shown (target : String) : Assures (.visible target) (.isVisible target)

namespace Call

/-- The call has succeeded; one that probes for something has found it. -/
def Succeeds : (call : Call) → Except EngineError call.Reply → Prop
  | .selectorExists _, reply | .textPresent _, reply | .isVisible _, reply => reply = .ok true
  | _, reply => ∃ value, reply = .ok value

/-- A call that no page refuses. -/
def Safe : Call → Prop
  | .fill .. | .click _ | .clickLabel .. | .capture _ => False
  | _ => True

theorem not_succeeds_error (call : Call) (error : EngineError) : ¬call.Succeeds (.error error) := by
  cases call <;> simp [Succeeds]

theorem safe_probe (condition : Condition) : condition.probe.Safe := by
  cases condition <;> trivial

end Call

namespace Page

/-- There is on the page what a call needs to succeed. -/
def Grants (page : Page) : Call → Prop
  | .selectorExists selector =>
      page.delayed.get? selector = none ∧ page.hasSelector selector = true
  | .fill selector _ _ | .click selector => page.hasSelector selector = true
  | .textPresent text | .clickLabel text _ => Text.contains page.body text = true
  | .isVisible target => page.visible.contains target = true
  | _ => False

/-- All that was on a page is on it still. -/
structure Kept (page after : Page) : Prop where
  selectors : ∀ selector, page.hasSelector selector = true → after.hasSelector selector = true
  prompt : ∀ selector, page.delayed.get? selector = none → after.delayed.get? selector = none
  visible : after.visible = page.visible
  body : after.body = page.body

variable {page after last : Page} {call : Call} {condition : Condition}

theorem Kept.refl (page : Page) : page.Kept page :=
  ⟨fun _ => id, fun _ => id, rfl, rfl⟩

theorem hasSelector_withSelector_iff {selector other : String} :
    (page.withSelector other).hasSelector selector = true ↔
      selector = other ∨ page.hasSelector selector = true := by
  simp only [withSelector, hasSelector, List.contains_iff_mem]
  by_cases known : other ∈ page.selectors
  · simp only [known, if_true]
    constructor
    · exact .inr
    · rintro (rfl | has)
      · exact known
      · exact has
  · simp [known]

theorem probe_kept (selector : String) (page : Page) : page.Kept (page.probe selector).2 := by
  unfold probe
  split
  next =>
    refine ⟨?_, ?_, rfl, rfl⟩
    · intro other has
      exact hasSelector_withSelector_iff.mpr (.inr has)
    · intro other prompt
      exact Association.get?_filter_eq_none _ prompt
  next probes late =>
    refine ⟨fun _ => id, ?_, rfl, rfl⟩
    intro other prompt
    -- a selector that is not late is another one than the one that has come nearer
    have different : selector ≠ other := by
      rintro rfl
      rw [late] at prompt
      cases prompt
    rw [← prompt]
    exact Association.get?_insert_of_ne different probes page.delayed
  next => exact .refl page

/-- No call takes away what is on a page. -/
theorem answer_kept (call : Call) (page : Page) : page.Kept (page.answer call).2 := by
  cases call with
  | selectorExists selector => exact probe_kept selector page
  | fill selector form submit =>
      simp only [answer]
      split
      · exact .refl page
      · cases submit with
        | false => exact .refl page
        | true => exact ⟨fun _ => id, fun _ => id, rfl, rfl⟩
  | start | visit => exact ⟨fun _ => id, fun _ => id, rfl, rfl⟩
  | currentUrl | textPresent | isVisible | click | clickLabel | fetchText | attributeOf
  | capture | finish => exact .refl page

theorem Grants.kept (grants : page.Grants call) (kept : page.Kept after) : after.Grants call := by
  unfold Grants at *
  cases call with
  | selectorExists selector => exact ⟨kept.prompt _ grants.1, kept.selectors _ grants.2⟩
  | fill | click => exact kept.selectors _ grants
  | textPresent | clickLabel =>
      simp only [kept.body]
      exact grants
  | isVisible =>
      simp only [kept.visible]
      exact grants
  | start | visit | currentUrl | fetchText | attributeOf | capture | finish => exact grants

theorem Grants.succeeds (grants : page.Grants call) : call.Succeeds (page.answer call).1 := by
  unfold Grants at grants
  cases call with
  | selectorExists selector =>
      obtain ⟨prompt, has⟩ := grants
      simp [Call.Succeeds, answer, probe, prompt, has]
  | fill selector form submit => simp [Call.Succeeds, answer, grants]
  | click selector => simp [Call.Succeeds, answer, grants]
  | textPresent text => simp [Call.Succeeds, answer, grants]
  | clickLabel label tag => simp [Call.Succeeds, answer, grants]
  | isVisible target => simpa [Call.Succeeds, answer] using grants
  | start | visit | currentUrl | fetchText | attributeOf | capture | finish => exact grants.elim

theorem answer_safe (safe : call.Safe) (page : Page) :
    ∃ value, (page.answer call).1 = .ok value := by
  cases call with
  | fill | click | clickLabel | capture => exact safe.elim
  | start | visit | currentUrl | selectorExists | textPresent | isVisible | fetchText
  | attributeOf | finish => exact ⟨_, rfl⟩

/-- A selector that is found is not late any more. -/
theorem grants_of_found {selector : String} (found : (page.probe selector).1 = true) :
    (page.probe selector).2.delayed.get? selector = none ∧
      (page.probe selector).2.hasSelector selector = true := by
  unfold probe at *
  split at found
  next => exact ⟨Association.get?_filter_ne_self _ _, hasSelector_withSelector_iff.mpr (.inl rfl)⟩
  next => cases found
  next prompt => exact ⟨prompt, found⟩

theorem grants_of_met {found : condition.probe.Reply} (assures : condition.Assures call)
    (answered : (page.answer condition.probe).1 = .ok found)
    (holds : condition.holds found = true) :
    (page.answer condition.probe).2.Grants call := by
  cases assures with
  | seen selector =>
      cases answered
      exact grants_of_found holds
  | fill selector form submit =>
      cases answered
      exact (grants_of_found holds).2
  | click selector =>
      cases answered
      exact (grants_of_found holds).2
  | read text | label text tag | shown target =>
      cases answered
      exact holds

end Page

/-- What is known of all that comes to pass on a page. -/
structure Steadfast (history : List Occurrence) : Prop where
  /-- Behind a probe that has found its condition to hold, the calls succeed that it assures. -/
  assured : ∀ (condition : Condition) front ms (found : condition.probe.Reply) back,
    history = front ++ .answered condition.probe ms (.ok found) :: back →
    condition.holds found = true →
    ∀ call, condition.Assures call → ∀ ms reply, .answered call ms reply ∈ back →
      call.Succeeds reply
  safe : ∀ call : Call, call.Safe → ∀ ms reply, .answered call ms reply ∈ history →
    ∃ value, reply = .ok value

namespace World

variable {world after : World Page} {occurrence : Occurrence} {history : List Occurrence}
  {call : Call}

theorem Undergoes.kept (undergone : world.Undergoes Page.engine occurrence after) :
    world.state.Kept after.state := by
  cases undergone with
  | answered call => exact Page.answer_kept call world.state
  | dropped | rested | entered | recorded | remarked | noted => exact .refl world.state

theorem Undergoes.answer {ms : Nat} {reply : Except EngineError call.Reply}
    (undergone : world.Undergoes Page.engine (.answered call ms reply) after) :
    world.state.answer call = (reply, after.state) := by
  generalize same : Occurrence.answered call ms reply = occurrence at undergone
  cases undergone with
  | answered call =>
      cases same
      rfl
  | dropped | rested | entered | recorded | remarked | noted => cases same

/-- The replies that a page gives to a call through a history, where nothing that is done to the
page changes what the reply comes of. -/
theorem Unfolds.replies (suits : Page → Prop) {welcome : Except EngineError call.Reply → Prop}
    (kept : ∀ {page after : Page}, page.Kept after → suits page → suits after)
    (replies : ∀ page, suits page → welcome (page.answer call).1)
    (unfolds : world.Unfolds Page.engine history after) (suited : suits world.state) :
    ∀ ms reply, .answered call ms reply ∈ history → welcome reply := by
  induction unfolds with
  | done => simp
  | step undergone _ inductionHypothesis =>
      intro ms reply membership
      rcases List.mem_cons.mp membership with rfl | later
      · have replied := replies _ suited
        rwa [undergone.answer] at replied
      · exact inductionHypothesis (kept undergone.kept suited) ms reply later

theorem Unfolds.steadfast (unfolds : world.Unfolds Page.engine history after) :
    Steadfast history where
  assured := by
    rintro condition front ms found back rfl holds call assures
    obtain ⟨probed, -, gone⟩ := unfolds.split
    cases gone with
    | step undergone later =>
        -- the probe leaves a page behind on which the call is granted
        have answer := undergone.answer
        have granted := Page.grants_of_met assures (congrArg Prod.fst answer) holds
        rw [answer] at granted
        exact later.replies (Page.Grants · call) (fun kept grants => grants.kept kept)
          (fun _ => Page.Grants.succeeds) granted
  safe := by
    intro call safe
    exact unfolds.replies (fun _ => True) (fun _ => id) (fun page _ => Page.answer_safe safe page)
      trivial

end World

namespace Condition.Awaits

variable {condition : Condition} {interval : Nat} {history : List Occurrence} {ending : WaitEnd}

/-- A wait that is met ends with the probe that has met it. -/
theorem exists_met (awaits : condition.Awaits interval history ending) (met : ending = .met) :
    ∃ front ms found, history = front ++ [.answered condition.probe ms (.ok found)] ∧
      condition.holds found = true := by
  induction awaits with
  | met holds => exact ⟨[], _, _, rfl, holds⟩
  | failed | dropped | elapsed | unrested => cases met
  | again _ _ inductionHypothesis =>
      obtain ⟨front, ms, found, rfl, holds⟩ := inductionHypothesis met
      exact ⟨_ :: _ :: front, ms, found, rfl, holds⟩

theorem exists_failed {error : EngineError} (awaits : condition.Awaits interval history ending)
    (failed : ending = .failed error) :
    ∃ ms, .answered condition.probe ms (.error error) ∈ history := by
  induction awaits with
  | failed =>
      cases failed
      exact ⟨_, List.mem_singleton_self _⟩
  | met | dropped | elapsed | unrested => cases failed
  | again _ _ inductionHypothesis =>
      obtain ⟨ms, membership⟩ := inductionHypothesis failed
      exact ⟨ms, List.mem_cons_of_mem _ (List.mem_cons_of_mem _ membership)⟩

end Condition.Awaits

namespace Action

/-- Actions that do something with what they have waited for. -/
inductive Handles : Action → Prop where
  | fill (message selector : String) (form : FormData) (submit : Option Bool) :
      Handles (.fill message selector form submit)
  | click (message selector : String) : Handles (.click message selector)
  | clickTheLabel (label : String) : Handles (.clickTheLabel label)

/-- Actions that only look for something, or go to an address. -/
inductive Looks : Action → Prop where
  | goTo (message url : String) : Looks (.goTo message url)
  | am (message selector : String) : Looks (.am message selector)
  | find (message selector : String) : Looks (.find message selector)
  | see (message text : String) : Looks (.see message text)
  | canSee (message text : String) : Looks (.canSee message text)
  | findTheVisible (message selector : String) : Looks (.findTheVisible message selector)
  | reached (message : String) (url : UrlPattern) : Looks (.reached message url)

/-- Actions that check something once. -/
inductive Checks : Action → Prop where
  | shouldNotSee (message text : String) : Checks (.shouldNotSee message text)
  | cannotFindThe (message selector : String) : Checks (.cannotFindThe message selector)
  | seeTheValueOf (message selector : String) (expected : Json) :
      Checks (.seeTheValueOf message selector expected)
  | noteDown (message selector property : String) : Checks (.noteDown message selector property)

variable {action : Action}

theorem BuiltIn.sort (builtIn : action.BuiltIn) :
    action.Handles ∨ action.Looks ∨ action.Checks := by
  cases builtIn with
  | fill => exact .inl (.fill ..)
  | click => exact .inl (.click ..)
  | clickTheLabel => exact .inl (.clickTheLabel ..)
  | goTo => exact .inr (.inl (.goTo ..))
  | am => exact .inr (.inl (.am ..))
  | find => exact .inr (.inl (.find ..))
  | see => exact .inr (.inl (.see ..))
  | canSee => exact .inr (.inl (.canSee ..))
  | findTheVisible => exact .inr (.inl (.findTheVisible ..))
  | reached => exact .inr (.inl (.reached ..))
  | shouldNotSee => exact .inr (.inr (.shouldNotSee ..))
  | cannotFindThe => exact .inr (.inr (.cannotFindThe ..))
  | seeTheValueOf => exact .inr (.inr (.seeTheValueOf ..))
  | noteDown => exact .inr (.inr (.noteDown ..))

/-- The work of such an action is one call, and its wait assures it. -/
theorem Handles.work (handles : action.Handles) :
    ∃ (condition : Condition) (request : Cue → Call), action.strategy = .wait condition ∧
      action.callback = some (fun cue => .tell (request cue)) ∧
      ∀ cue, condition.Assures (request cue) := by
  cases handles with
  | fill message selector form submit => exact ⟨_, _, rfl, rfl, fun _ => .fill ..⟩
  | click message selector => exact ⟨_, _, rfl, rfl, fun _ => .click ..⟩
  | clickTheLabel label => exact ⟨_, _, rfl, rfl, fun _ => .label ..⟩

theorem Looks.work (looks : action.Looks) :
    (∃ message url, action = .goTo message url) ∨
      ∃ condition, action.strategy = .wait condition ∧ action.callback = none := by
  cases looks with
  | goTo message url => exact .inl ⟨message, url, rfl⟩
  | am | find | see | canSee | findTheVisible | reached => exact .inr ⟨_, rfl, rfl⟩

end Action

namespace Step

variable {config : Config} {context : Context} {step : Step} {action : Action}
  {condition : Condition} {history : List Occurrence} {outcome : Option Outcome}

/-- The work of the step succeeds if the calls in it do that its wait assures. -/
def Dependable (config : Config) (context : Context) (condition : Condition) (step : Step) : Prop :=
  ∀ working performance, step.Works config context working performance →
    (∀ call, condition.Assures call → ∀ ms reply, .answered call ms reply ∈ working →
      call.Succeeds reply) →
    performance = { result := .ok (), reported := none }

theorem Does.dependable_of_handles {request : Cue → Call} (does : step.Does action)
    (work : action.callback = some fun cue => .tell (request cue))
    (assures : ∀ cue, condition.Assures (request cue)) :
    step.Dependable config context condition := by
  intro working performance works succeed
  obtain ⟨ms, ⟨reply, -, performance⟩ | ⟨error, rfl, -⟩⟩ := does.works_of_tell work works
  · exact performance
  · have refused := succeed _ (assures _) ms _ (List.mem_singleton_self _)
    exact (Call.not_succeeds_error _ error refused).elim

theorem Does.dependable_of_idle (does : step.Does action) (idle : action.callback = none) :
    step.Dependable config context condition := by
  intro working performance works _
  unfold Works at works
  rw [does.callback, idle] at works
  exact works.2

/-- On a page a step with dependable work passes, or runs out of time. -/
theorem Unrolls.passes (steadfast : Steadfast history) (waits : step.strategy = .wait condition)
    (dependable : step.Dependable config context condition)
    (unrolls : step.Unrolls config context history outcome) :
    outcome = some .passed ∨ outcome = some .timedOut := by
  obtain ⟨waiting, ending, elapsed, rest, picture, result, rfl, rfl, awaits, follows, pictured⟩ :=
    unrolls.of_wait waits
  -- the probe that has met the condition comes before all that follows the wait
  have assured : ending = .met → ∀ call, condition.Assures call → ∀ ms reply,
      .answered call ms reply ∈ rest → call.Succeeds reply := by
    intro met call assures ms reply membership
    obtain ⟨front, probed, found, rfl, holds⟩ := awaits.exists_met met
    apply steadfast.assured condition (.entered context.scenario context.index :: front) probed
      found (World.waitRemark condition elapsed ending ++ rest ++ (step.lastWords ++ picture))
      (by simp) holds call assures ms
    simp [membership]
  cases follows with
  | elapsed => exact .inr rfl
  | passed => exact .inl rfl
  | @unanswered error =>
      obtain ⟨ms, refused⟩ := awaits.exists_failed rfl
      obtain ⟨value, answered⟩ :=
        steadfast.safe _ (Call.safe_probe condition) ms (.error error) (by simp [refused])
      cases answered
  | failed works =>
      have succeeds := dependable _ _ works fun call assures ms reply membership =>
        assured rfl call assures ms reply (by simp [membership])
      cases succeeds
  | reported works =>
      have succeeds := dependable _ _ works (assured rfl)
      cases succeeds

/-- A page opens every address. -/
theorem Unrolls.opens {message url : String} (steadfast : Steadfast history)
    (does : step.Does (.goTo message url))
    (unrolls : step.Unrolls config context history outcome) :
    outcome = some .passed ∧ history.filterMap Occurrence.signal? = [] := by
  have immediate : step.strategy = .immediate := does.strategy
  obtain ⟨course, picture, result, rfl, rfl, goes, pictured⟩ := unrolls.of_immediate immediate
  cases goes with
  | elapsed waits | unanswered waits | passed waits => cases immediate.symm.trans waits
  | failed begins works =>
      obtain ⟨ms, ⟨-, performance⟩ | ⟨error, rfl, -⟩⟩ := does.works_of_goTo works
      · cases performance
      · obtain ⟨value, answered⟩ :=
          steadfast.safe (.visit url) trivial ms (.error error) (by simp)
        cases answered
  | reported begins works =>
      obtain ⟨ms, ⟨-, performance⟩ | ⟨error, -, performance⟩⟩ := does.works_of_goTo works
      · cases performance
      · cases performance
  | unreported _ works =>
      obtain ⟨ms, ⟨rfl, -⟩ | ⟨error, -, performance⟩⟩ := does.works_of_goTo works
      · refine ⟨rfl, ?_⟩
        rw [List.filterMap_cons, Occurrence.signal?_entered, List.filterMap_append,
          pictured.signals]
        rfl
      · cases performance

/-- What a built-in step is reported to have come to on a page, it has come to. -/
theorem Unrolls.told (builtIn : step.BuiltIn) (steadfast : Steadfast history)
    (unrolls : step.Unrolls config context history outcome) :
    ∀ told ∈ history.filterMap Occurrence.signal?, outcome = some told.1 := by
  obtain banner | ⟨action, builtIn, does⟩ := builtIn
  · obtain ⟨-, rfl⟩ := unrolls.of_banner banner
    simp [bannerHistory, Event.signal?]
  · rcases builtIn.work with
      ⟨condition, waits, quiet⟩ | ⟨immediate, ⟨message, url, rfl⟩ | ⟨callback, work, telling⟩⟩
    · obtain ⟨waiting, ending, elapsed, rest, picture, result, rfl, rfl, awaits, follows,
        pictured⟩ := unrolls.of_wait (does.strategy.trans waits)
      simp only [List.filterMap_cons, Occurrence.signal?_entered, List.filterMap_append,
        awaits.signals, filterMap_signal? (World.waitRemark ..), World.events_waitRemark,
        follows.signals_of_quiet does quiet, signals_lastWords, pictured.signals]
      simp
    · simp [(unrolls.opens steadfast does).2]
    · have immediate := does.strategy.trans immediate
      obtain ⟨course, picture, result, rfl, rfl, goes, pictured⟩ := unrolls.of_immediate immediate
      have signed := goes.signal_of_telling immediate (does.callback.trans work) telling
      simp only [List.filterMap_cons, Occurrence.signal?_entered, List.filterMap_append, signed,
        pictured.signals]
      simp

end Step

/-- What a built-in step of a run on a page leaves behind, and how it comes out. -/
structure Scheduled.Relies (config : Config) (item : Scheduled)
    (course : List Occurrence × Option Outcome) : Prop where
  unrolls : item.step.Unrolls config item.context course.1 course.2
  /-- It is reported to have come out in no other way. -/
  told : ∀ told ∈ course.1.filterMap Occurrence.signal?, course.2 = some told.1
  handles : ∀ action : Action, action.Handles → item.step.Does action →
    course.2 = some .passed ∨ course.2 = some .timedOut
  looks : ∀ action : Action, action.Looks → item.step.Does action → course.2 ≠ some .failed
  /-- Only a check can fail. -/
  checks : course.2 = some .failed → ∃ action : Action, action.Checks ∧ item.step.Does action

namespace Step

variable {config : Config} {context : Context} {step : Step} {action : Action}
  {history : List Occurrence} {outcome : Option Outcome}

theorem Unrolls.handles (steadfast : Steadfast history) (handles : action.Handles)
    (does : step.Does action) (unrolls : step.Unrolls config context history outcome) :
    outcome = some .passed ∨ outcome = some .timedOut := by
  obtain ⟨condition, request, waits, work, assures⟩ := handles.work
  exact unrolls.passes steadfast (does.strategy.trans waits)
    (does.dependable_of_handles work assures)

theorem Unrolls.looks (steadfast : Steadfast history) (looks : action.Looks)
    (does : step.Does action) (unrolls : step.Unrolls config context history outcome) :
    outcome ≠ some .failed := by
  obtain ⟨message, url, rfl⟩ | ⟨condition, waits, idle⟩ := looks.work
  · rw [(unrolls.opens steadfast does).1]
    simp
  · rcases unrolls.passes steadfast (does.strategy.trans waits) (does.dependable_of_idle idle)
      with rfl | rfl
    · simp
    · simp

end Step

theorem Scheduled.relies {config : Config} {item : Scheduled} {history : List Occurrence}
    {outcome : Option Outcome} (builtIn : item.step.BuiltIn) (steadfast : Steadfast history)
    (unrolls : item.step.Unrolls config item.context history outcome) :
    item.Relies config (history, outcome) where
  unrolls := unrolls
  told := unrolls.told builtIn steadfast
  handles _ handles does := unrolls.handles steadfast handles does
  looks _ looks does := unrolls.looks steadfast looks does
  checks failed := by
    obtain rfl : outcome = some .failed := failed
    obtain banner | ⟨action, builtIn, does⟩ := builtIn
    · cases (unrolls.of_banner banner).1
    · rcases builtIn.sort with handles | looks | checks
      · have passes := unrolls.handles steadfast handles does
        simp at passes
      · exact (unrolls.looks steadfast looks does rfl).elim
      · exact ⟨action, checks, does⟩

namespace World

theorem runSteps_relies (config : Config) {pipeline : List Scheduled}
    (builtIn : ∀ item ∈ pipeline, item.step.BuiltIn) (world : World Page) :
    ∃ courses, List.Forall₂ (Scheduled.Relies config) pipeline courses ∧
      world.outcomes Page.engine config pipeline = courses.map Prod.snd ∧
      world.Unfolds Page.engine (courses.map Prod.fst).flatten
        (world.runSteps Page.engine config pipeline) := by
  induction pipeline generalizing world with
  | nil => exact ⟨[], .nil, rfl, .done world⟩
  | cons item rest inductionHypothesis =>
      obtain ⟨first, others⟩ := List.forall_mem_cons.mp builtIn
      obtain ⟨history, unrolls, unfolds⟩ :=
        execute_unfolds Page.engine config item.context item.step world
      obtain ⟨courses, rely, outcomes, gone⟩ := inductionHypothesis others
        (world.execute Page.engine config item.context item.step).2
      refine ⟨(history, _) :: courses,
        .cons (Scheduled.relies first unfolds.steadfast unrolls) rely, ?_, unfolds.append gone⟩
      rw [World.outcomes, outcomes]
      rfl

/-- A run on a page, as it leaves the page and with the course of each of its steps. -/
structure Reliant (config : Config) (entryUrl : String) (suite : Suite) (world after : World Page)
    (courses : List (List Occurrence × Option Outcome)) : Prop where
  comprises : Comprises Page.engine entryUrl (courses.map Prod.fst) world after
  outcomes : (world.running Page.engine entryUrl suite).outcomes Page.engine config
    suite.pipeline = courses.map Prod.snd
  steps : List.Forall₂ (Scheduled.Relies config) suite.pipeline courses
  /-- A selector that has been found once is found whenever it is looked for again. -/
  found : ∀ selector front ms back,
    (courses.map Prod.fst).flatten =
      front ++ .answered (.selectorExists selector) ms (.ok true) :: back →
    ∀ ms reply, .answered (.selectorExists selector) ms reply ∈ back → reply = .ok true

/-- What a wait has established on a page can be relied on for the rest of the run: no step fails
that works on what it has waited for, that only waits or that goes to an address. -/
theorem run_reliant (config : Config) (entryUrl : String) {suite : Suite}
    (builtIn : ∀ item ∈ suite.pipeline, item.step.BuiltIn) (world : World Page) :
    ∃ after courses,
      world.run Page.engine config entryUrl suite = (.ok (), after) ∧
      Reliant config entryUrl suite world after courses := by
  have starts : Page.engine.Starts entryUrl world.state := rfl
  have ready : Page.engine.Starts entryUrl (world.tell suite.trace).state := rfl
  obtain ⟨courses, rely, outcomes, gone⟩ :=
    runSteps_relies config builtIn (world.running Page.engine entryUrl suite)
  obtain ⟨ran, comprises⟩ :=
    run_comprises Page.engine config suite starts (start_of_starts ready) gone
  refine ⟨_, courses, ran, comprises, outcomes, rely, ?_⟩
  intro selector front ms back same
  exact gone.steadfast.assured (.selector selector) front ms true back same rfl _ (.seen selector)

/-- What is bought late is bought nevertheless. -/
theorem buying_reliant :
    ((running Page.engine "/" Page.buying
        (.fresh (Page.ofFacts [.selectorAfter "#buy" 2]) 0 .empty)).outcomes Page.engine .default
          Page.buying.pipeline = [none, some .passed, some .passed]) ∧
      (∀ item ∈ Page.buying.pipeline, item.step.BuiltIn) ∧
      ∃ after courses,
        World.run Page.engine .default "/" Page.buying
          (.fresh (Page.ofFacts [.selectorAfter "#buy" 2]) 0 .empty) = (.ok (), after) ∧
        Reliant .default "/" Page.buying
          (.fresh (Page.ofFacts [.selectorAfter "#buy" 2]) 0 .empty) after courses :=
  ⟨rfl, Page.buying_builtIn, run_reliant .default "/" Page.buying_builtIn _⟩

end World

end Rehearsal

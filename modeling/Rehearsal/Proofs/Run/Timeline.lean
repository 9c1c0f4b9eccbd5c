import Rehearsal.Engine.Page
import Rehearsal.Proofs.Run.Picture
import Rehearsal.Proofs.Run.Reporting
import Rehearsal.Proofs.Run.Running
import Rehearsal.Proofs.Suite.Steps

/-!
The timeline of a run.

It is made up of one block for each step of the pipeline, and the counts at the end.  In the block
of a built-in step the step is reported once, and its picture comes last.
-/

namespace Rehearsal

namespace Scheduled

/-- The event at the end of a step: its picture, or why there is none. -/
inductive Closes (config : Config) (item : Scheduled) (history : List Occurrence) :
    Event → Prop where
  | captured {ms : Nat} :
      Occurrence.answered (.capture (item.context.evidence config item.step.message).path) ms
        (.ok ()) ∈ history →
      Closes config item history (.captured (item.context.evidence config item.step.message))
  | refused {ms : Nat} {error : EngineError} :
      Occurrence.answered (.capture (item.context.evidence config item.step.message).path) ms
        (.error error) ∈ history →
      Closes config item history (.log .warning ("Capture failed: " ++ error.message))

/-- What a step of the pipeline leaves in the timeline is in good order. -/
structure Orderly (config : Config) (item : Scheduled) (history : List Occurrence) : Prop where
  banner : item.step.strategy = .banner →
    history.filterMap Occurrence.event? =
      [.log .info "", .log .infoBar ("Scenario: " ++ item.context.scenario),
        .banner item.context.scenario]
  /-- A step is reported once, unless it has opened an address, and closed after that. -/
  step : item.step.strategy ≠ .banner → ∃ before last,
    history.filterMap Occurrence.event? = before ++ [last] ∧
    item.Closes config history last ∧
    (item.step.Opened history ∧ before.filterMap Event.signal? = [] ∨
      ¬item.step.Opened history ∧ ∃ outcome,
        before.filterMap Event.signal? =
          [(outcome, item.context.scenario, item.context.index)])
  timeout : ∀ n scenario index message,
    (history.filterMap Occurrence.event?)[n]? = some (.timedOut scenario index message) →
    (history.filterMap Occurrence.event?)[n + 1]? = some (.log .warning "Timeout")
  fault : ∀ reason, item.step.Fails config item.context history reason →
    ∃ before after, history.filterMap Occurrence.event? =
      before ++ .failed item.context.scenario item.context.index item.step.message ::
        .log .error ("Error: " ++ reason) :: after
  undone : ∀ passes failures timeouts,
    .done passes failures timeouts ∉ history.filterMap Occurrence.event?

variable {config : Config} {item : Scheduled} {course picture : List Occurrence}
  {outcome : Outcome}

theorem bannerHistory_orderly (banner : item.step.strategy = .banner) :
    item.Orderly config
      (.entered item.context.scenario item.context.index ::
        bannerHistory item.context.scenario) where
  banner _ := rfl
  step other := (other banner).elim
  timeout n scenario index message found := by
    have membership := List.mem_of_getElem? found
    simp [bannerHistory] at membership
  fault reason fails := (Step.not_fails_of_banner banner fails).elim
  undone passes failures timeouts membership := by
    simp [bannerHistory] at membership

theorem log_of_mem_lastWords {step : Step} {event : Event}
    (membership : event ∈ step.lastWords.filterMap Occurrence.event?) :
    ∃ info, event = .log .info info := by
  unfold Step.lastWords at membership
  split at membership
  next info _ _ =>
    rcases List.mem_singleton.mp membership with rfl
    exact ⟨info, rfl⟩
  next => cases membership

theorem done_not_mem_goes (goes : item.step.Goes config item.context course outcome)
    (passes failures timeouts : Nat) :
    .done passes failures timeouts ∉ course.filterMap Occurrence.event? := by
  intro membership
  rcases goes.events with timeout | spoken
  · rw [timeout] at membership
    simp at membership
  · exact spoken _ membership

theorem closes_of_pictured
    (pictured : (item.context.evidence config item.step.message).Pictured picture)
    (before : List Occurrence) :
    ∃ last, picture.filterMap Occurrence.event? = [last] ∧
      item.Closes config (before ++ picture) last ∧ last.signal? = none ∧
      ∀ passes failures timeouts, last ≠ .done passes failures timeouts := by
  cases pictured with
  | captured =>
      refine ⟨_, rfl, .captured (List.mem_append_right before (.head _)), rfl, ?_⟩
      rintro _ _ _ ⟨⟩
  | refused =>
      refine ⟨_, rfl, .refused (List.mem_append_right before (.head _)), rfl, ?_⟩
      rintro _ _ _ ⟨⟩

/-- Nothing is opened once a step has come to its outcome. -/
theorem visit_mem_course {url : String} {ms : Nat} {reply : Except EngineError Unit}
    (pictured : (item.context.evidence config item.step.message).Pictured picture)
    (membership : Occurrence.answered (.visit url) ms reply ∈
      .entered item.context.scenario item.context.index ::
        (course ++ (item.step.lastWords ++ picture))) :
    Occurrence.answered (.visit url) ms reply ∈ course := by
  rcases List.mem_cons.mp membership with entered | membership
  · cases entered
  rcases List.mem_append.mp membership with inside | behind
  · exact inside
  · have called : Call.visit url ∈
        (item.step.lastWords ++ picture).filterMap Occurrence.call? :=
      List.mem_filterMap.mpr ⟨_, behind, rfl⟩
    rw [List.filterMap_append, Step.calls_lastWords, pictured.calls] at called
    simp at called

theorem signal_of_goes (builtIn : item.step.BuiltIn) (other : item.step.strategy ≠ .banner)
    (goes : item.step.Goes config item.context course outcome)
    (pictured : (item.context.evidence config item.step.message).Pictured picture) :
    let history := .entered item.context.scenario item.context.index ::
      (course ++ (item.step.lastWords ++ picture))
    item.step.Opened history ∧ course.filterMap Occurrence.signal? = [] ∨
      ¬item.step.Opened history ∧ ∃ outcome, course.filterMap Occurrence.signal? =
        [(outcome, item.context.scenario, item.context.index)] := by
  intro history
  obtain banner | ⟨action, builtIn, does⟩ := builtIn
  · exact (other banner).elim
  -- It is what the step does that counts, not the action that it was made of.
  by_cases goesTo : ∃ message url, item.step.Does (.goTo message url)
  · obtain ⟨message, url, does⟩ := goesTo
    obtain ⟨ms, rfl | ⟨error, rfl⟩⟩ := goes.opening does
    · exact .inl ⟨⟨message, url, ms, does, by simp [history]⟩, rfl⟩
    · refine .inr ⟨?_, .failed, rfl⟩
      rintro ⟨_, target, elapsed, -, membership⟩
      have inside := visit_mem_course pictured membership
      simp [faultHistory] at inside
  · refine .inr ⟨?_, goes.signal does builtIn ?_⟩
    · rintro ⟨message, url, ms, does, -⟩
      exact goesTo ⟨message, url, does⟩
    · exact fun message url does => goesTo ⟨message, url, does⟩

theorem warning_of_timeout {events tail : List Event}
    (goes : item.step.Goes config item.context course outcome)
    (split : events = course.filterMap Occurrence.event? ++ tail)
    (unsigned : ∀ event ∈ tail, event.signal? = none) {n : Nat} {scenario message : String}
    {index : Nat} (found : events[n]? = some (.timedOut scenario index message)) :
    events[n + 1]? = some (.log .warning "Timeout") := by
  have outside : .timedOut scenario index message ∉ tail := by
    intro membership
    cases unsigned _ membership
  subst split
  rcases goes.events with timeout | spoken
  · rw [timeout] at found ⊢
    match n with
    | 0 => rfl
    | 1 => simp at found
    | n + 2 => exact (outside (List.mem_of_getElem? (by simpa using found))).elim
  · rcases List.mem_append.mp (List.mem_of_getElem? found) with inside | behind
    · exact (spoken _ inside).elim
    · exact (outside behind).elim

/-- A built-in step leaves its block of the timeline in good order. -/
theorem Unrolls.orderly {history : List Occurrence} (builtIn : item.step.BuiltIn)
    (unrolls : item.Unrolls config history) : item.Orderly config history := by
  obtain ⟨outcome, unrolls⟩ := unrolls
  cases unrolls with
  | banner banner => exact bannerHistory_orderly banner
  | @step course picture outcome other goes pictured =>
      obtain ⟨last, shown, closes, unsigned, unfinished⟩ := closes_of_pictured pictured
        (.entered item.context.scenario item.context.index :: (course ++ item.step.lastWords))
      rw [List.cons_append, List.append_assoc] at closes
      -- The block falls into what the step records on its way, its last words and one last event.
      have events : (Occurrence.entered item.context.scenario item.context.index ::
          (course ++ (item.step.lastWords ++ picture))).filterMap Occurrence.event? =
            course.filterMap Occurrence.event? ++
              (item.step.lastWords.filterMap Occurrence.event? ++ [last]) := by
        rw [List.filterMap_cons, Occurrence.event?_entered, List.filterMap_append,
          List.filterMap_append, shown]
      have wordless : (item.step.lastWords.filterMap Occurrence.event?).filterMap Event.signal? =
          [] := by
        rw [← filterMap_signal?, Step.signals_lastWords]
      have tail : ∀ event ∈ item.step.lastWords.filterMap Occurrence.event? ++ [last],
          event.signal? = none := by
        rw [List.forall_mem_append, List.forall_mem_singleton]
        exact ⟨List.filterMap_eq_nil_iff.mp wordless, unsigned⟩
      refine ⟨fun banner => (other banner).elim, fun _ => ?_, ?_, ?_, ?_⟩
      · refine ⟨(course ++ item.step.lastWords).filterMap Occurrence.event?, last, ?_, closes, ?_⟩
        · rw [events, List.filterMap_append, List.append_assoc]
        · rw [List.filterMap_append, List.filterMap_append, wordless, List.append_nil,
            ← filterMap_signal?]
          exact signal_of_goes builtIn other goes pictured
      · intro n scenario index message found
        exact warning_of_timeout goes events tail found
      · intro reason fails
        obtain ⟨before, failure⟩ := goes.fault fails rfl
        refine ⟨before, item.step.lastWords.filterMap Occurrence.event? ++ [last], ?_⟩
        rw [events, failure, List.append_assoc]
        rfl
      · intro passes failures timeouts membership
        rw [events] at membership
        simp only [List.mem_append, List.mem_singleton] at membership
        rcases membership with inside | info | closing
        · exact done_not_mem_goes goes passes failures timeouts inside
        · obtain ⟨text, logged⟩ := log_of_mem_lastWords info
          cases logged
        · exact unfinished passes failures timeouts closing.symm

end Scheduled

/-- A run of built-in steps comes to its end once the engine has started, and the timeline of its
report is made of one block for each step, in good order, and the counts at the end. -/
theorem World.timeline_orderly {σ : Type} (engine : Engine σ) (config : Config)
    (entryUrl : String) (suite : Suite) (state : σ) (clock : Nat) (notebook : Notebook)
    (time : Nat → String)
    (builtIn : ∀ item ∈ suite.pipeline, item.step.BuiltIn)
    (starts : engine.Starts entryUrl state) :
    ∃ after histories passes failures timeouts,
      World.run engine config entryUrl suite (.fresh state clock notebook) = (.ok (), after) ∧
      World.Runs engine config entryUrl suite.pipeline histories (.fresh state clock notebook)
        after ∧
      (after.report time).events =
        (histories.flatMap fun history => history.filterMap Occurrence.event?) ++
          [.done passes failures timeouts] ∧
      List.Forall₂ (Scheduled.Orderly config) suite.pipeline histories := by
  have ready : engine.Starts entryUrl (World.fresh state clock notebook).state := starts
  obtain ⟨after, histories, run, runs⟩ := World.run_unfolds engine config suite ready
  obtain ⟨passes, failures, timeouts, events⟩ := runs.comprises.events
  refine ⟨after, histories, passes, failures, timeouts, run, runs, ?_, ?_⟩
  · rw [World.report, Ledger.events_report, events, List.filterMap_flatten, List.flatMap_def]
    rfl
  · have built := (List.forall₂_and_left _ _).mpr ⟨builtIn, runs.steps⟩
    exact built.imp fun item history ⟨builtIn, unrolls⟩ => unrolls.orderly builtIn

namespace Suite

/-- A visit to a shop, with a price to be noted down and a button to be pressed. -/
def visiting : Suite :=
  empty.scenario "Visiting" [
    (Action.goTo "the shop" "/shop").voiced .when,
    (Action.noteDown "the price" "#price" "title").voiced .and,
    (Action.click "buy" "#buy").voiced .and]

theorem visiting_builtIn : ∀ item ∈ visiting.pipeline, item.step.BuiltIn := by
  refine ((empty_only Step.BuiltIn).scenario Step.banner_builtIn "Visiting" ?_).scheduled
  intro step membership
  simp only [List.mem_cons, List.not_mem_nil, or_false] at membership
  rcases membership with rfl | rfl | rfl
  · exact (Action.BuiltIn.goTo "the shop" "/shop").voiced .when
  · exact (Action.BuiltIn.noteDown "the price" "#price" "title").voiced .and
  · exact (Action.BuiltIn.click "buy" "#buy").voiced .and

/-- A visit on which an address is opened, a note cannot be taken, and a button never comes up. -/
theorem visiting_orderly :
    visiting.pipeline.length = 4 ∧ (∀ item ∈ visiting.pipeline, item.step.BuiltIn) ∧
      ∃ after histories passes failures timeouts,
        World.run Page.engine .default "https://shop.example" visiting
            (.fresh Page.blank 0 .empty) = (.ok (), after) ∧
        World.Runs Page.engine .default "https://shop.example" visiting.pipeline histories
          (.fresh Page.blank 0 .empty) after ∧
        (after.report fun _ => "12:00:00").events =
          (histories.flatMap fun history => history.filterMap Occurrence.event?) ++
            [.done passes failures timeouts] ∧
        List.Forall₂ (Scheduled.Orderly .default) visiting.pipeline histories :=
  ⟨rfl, visiting_builtIn,
    World.timeline_orderly Page.engine .default "https://shop.example" visiting Page.blank 0
      .empty (fun _ => "12:00:00") visiting_builtIn rfl⟩

end Suite

end Rehearsal

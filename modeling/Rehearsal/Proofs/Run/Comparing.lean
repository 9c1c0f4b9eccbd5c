import Rehearsal.Engine.Page
import Rehearsal.Proofs.Run.Accounting
import Rehearsal.Proofs.Step.BuiltIn
import Rehearsal.Proofs.Step.Within

/-!
Steps that compare the text of an element with a value.

The value is shown in the same way whether it is a text or only looks like one.  The comparison
tells them apart: nothing but a text passes, and only if it is the very text of the element.
-/

namespace Rehearsal

/-- The call asks for the text of an element. -/
def Call.fetches : Call → Bool
  | .fetchText _ => true
  | _ => false

theorem Json.text?_eq_some_iff {value : Json} {text : String} :
    value.text? = some text ↔ value = .text text := by
  cases value <;> simp [text?]

namespace Step

variable (context : Context) (message selector : String) (expected : Json)

/-- A value that is no text is remarked upon before anything else is done. -/
def caution : List Occurrence :=
  if expected.isText then [] else [.recorded (.log .warning Action.notTextWarning)]

/-- How the step is reported once the engine has answered with a text or has failed. -/
def verdict : Except EngineError String → Outcome × List Occurrence
  | .ok found =>
      if expected.text? = some found then
        (.passed, [.recorded (.passed context.scenario context.index message)])
      else
        (.failed, faultHistory context message
          ("Expected " ++ expected.shown ++ " but got " ++ found))
  | .error error => (.failed, faultHistory context message error.message)

/-- How the step goes on behind its wait. -/
def aftermath (ms : Nat) (reply : Except EngineError String) : WaitEnd → Outcome × List Occurrence
  | .met =>
      ((verdict context message expected reply).1,
        caution expected ++ [.answered (.fetchText selector) ms reply] ++
          (verdict context message expected reply).2)
  | .failed error => (.failed, faultHistory context message error.message)
  | .elapsed => (.timedOut, timeoutHistory context message)

end Step

namespace World

variable {σ : Type} (engine : Engine σ) (config : Config) (context : Context)
  {name selector : String} {expected : Json}

theorem perform_compareText (selector : String) (expected : Json) (world : World σ) :
    (Action.compareText selector expected).perform engine context none world =
      ({ result :=
          match (world.call engine (.fetchText selector)).1 with
          | .ok found =>
              if expected.text? = some found then .ok ()
              else .error (.mismatch expected.shown found)
          | .error error => .error (.engine error)
         reported := none },
        (world.call engine (.fetchText selector)).2) := by
  simp only [Action.compareText, Program.ask, Program.perform]
  cases (world.call engine (.fetchText selector)).1 with
  | error error => rfl
  | ok found =>
      by_cases same : expected.text? = some found <;> simp [same, Program.perform]

theorem caution_unfolds (expected : Json) (world : World σ) :
    world.Unfolds engine (Step.caution expected)
      (if expected.isText then world else world.log .warning Action.notTextWarning) := by
  unfold Step.caution
  split
  · exact .done world
  · exact (undergoes_log engine .warning _ world).unfolds

theorem proceed_compares {step : Step}
    (does : step.Does (.seeTheValueOf name selector expected)) (world : World σ) :
    ∃ ms,
      let follows := Step.aftermath context step.message selector expected ms
        (world.call engine (.fetchText selector)).1 .met
      (world.proceed engine config context step).1 = follows.1 ∧
      world.Unfolds engine follows.2 (world.proceed engine config context step).2 := by
  have cautioned := caution_unfolds engine expected world
  generalize later : (if expected.isText = true then world
    else world.log .warning Action.notTextWarning) = next at cautioned
  -- a line in the ledger makes no difference to what the engine answers
  have state : next.state = world.state := by
    rw [← later]
    split <;> rfl
  have reply : (next.call engine (.fetchText selector)).1 =
      (world.call engine (.fetchText selector)).1 := by
    unfold call complete begin
    rw [state]
  have performed : world.perform engine config context step =
      (Action.compareText selector expected).perform engine context none next := by
    rw [perform, does.callback, ← later]
    simp only [Action.seeTheValueOf, Action.onSelector]
    split <;> rfl
  have asked := cautioned.append (call_unfolds engine (.fetchText selector) next)
  rw [reply] at asked
  refine ⟨engine.delay (.fetchText selector) (engine.accept (.fetchText selector) next.state), ?_⟩
  rw [proceed, performed, perform_compareText, reply]
  simp only [Step.aftermath]
  generalize (world.call engine (.fetchText selector)).1 = answer at asked ⊢
  cases answer with
  | error error =>
      exact ⟨rfl, asked.append (fault_unfolds engine context step.message error.message _)⟩
  | ok found =>
      by_cases same : expected.text? = some found
      · simp only [Step.verdict, if_pos same]
        exact ⟨trivial, asked.append (undergoes_signal engine context true step.message _).unfolds⟩
      · simp only [Step.verdict, if_neg same]
        exact ⟨trivial, asked.append (fault_unfolds engine context step.message
          (StepError.mismatch expected.shown found).message _)⟩

/-- Such a step goes on behind its wait by the end of the wait and the answer of the engine. -/
theorem waitAndProceed_compares {step : Step}
    (does : step.Does (.seeTheValueOf name selector expected)) {world : World σ}
    {waiting : List Occurrence}
    (unfolds : world.Unfolds engine waiting (world.await engine config (.selector selector)).2) :
    ∃ ms,
      let awaited := world.await engine config (.selector selector)
      let follows := Step.aftermath context step.message selector expected ms
        (awaited.2.call engine (.fetchText selector)).1 awaited.1
      (world.waitAndProceed engine config context step (.selector selector)).1 = follows.1 ∧
      world.Unfolds engine (waiting ++ follows.2)
        (world.waitAndProceed engine config context step (.selector selector)).2 := by
  have wordless : step.info = none := does.info
  cases awaited : world.await engine config (.selector selector) with
  | mk ending after =>
      rw [awaited] at unfolds
      cases ending with
      | met =>
          obtain ⟨ms, outcome, gone⟩ := proceed_compares engine config context does after
          rw [waitAndProceed_of_met awaited, wordless]
          exact ⟨ms, outcome, unfolds.append gone⟩
      | failed error =>
          rw [waitAndProceed_of_failed awaited, wordless]
          exact ⟨0, rfl,
            unfolds.append (fault_unfolds engine context step.message error.message after)⟩
      | elapsed =>
          rw [waitAndProceed_of_elapsed awaited, wordless]
          exact ⟨0, rfl, unfolds.append (timeout_unfolds engine context step.message after)⟩

end World

/-- What a step that compares the text of an element with a value puts on record, by the end of its
wait and by what the engine answers to being asked for the text behind that. -/
structure Step.Compares (context : Context) (message selector : String) (expected : Json)
    (ending : WaitEnd) (reply : Except EngineError String) (outcome : Outcome)
    (events : List Event) (calls : List Call) : Prop where
  /-- Nothing but the very text passes, whatever the value looks like. -/
  passed : outcome = .passed ↔
    ending = .met ∧ ∃ text, expected = .text text ∧ reply = .ok text
  mismatched : ∀ found, ending = .met → reply = .ok found → expected ≠ .text found →
    outcome = .failed ∧ ∃ before behind, events = before ++
      .failed context.scenario context.index message ::
        .log .error ("Error: Expected " ++ expected.shown ++ " but got " ++ found) :: behind
  unanswered : ∀ error, ending = .met → reply = .error error →
    outcome = .failed ∧ ∃ before behind, events = before ++
      .failed context.scenario context.index message ::
        .log .error ("Error: " ++ error.message) :: behind
  unmet : (ending = .elapsed → outcome = .timedOut) ∧
    ∀ error, ending = .failed error → outcome = .failed
  signalled : events.filterMap Event.signal? = [(outcome, context.scenario, context.index)]
  warned : events.count (.log .warning Action.notTextWarning) =
    if ending = .met ∧ expected.isText = false then 1 else 0
  /-- If there is a warning, it comes before anything else. -/
  cautious : ending = .met → expected.isText = false →
    events.head? = some (.log .warning Action.notTextWarning)
  /-- The text is asked for once, and only if the wait has been met. -/
  fetched : calls.filter Call.fetches = if ending = .met then [.fetchText selector] else []

namespace Step

variable {context : Context} {message selector : String} {expected : Json} {ending : WaitEnd}
  {reply : Except EngineError String} {ms : Nat}

theorem events_caution (expected : Json) :
    (caution expected).filterMap Occurrence.event? =
      if expected.isText then [] else [.log .warning Action.notTextWarning] := by
  unfold caution
  split <;> rfl

theorem calls_caution (expected : Json) :
    (caution expected).filterMap Occurrence.call? = [] := by
  unfold caution
  split <;> rfl

theorem signals_caution (expected : Json) :
    (caution expected).filterMap Occurrence.signal? = [] := by
  unfold caution
  split <;> rfl

theorem verdict_of_ne {found : String} (context : Context) (message : String)
    (different : expected ≠ .text found) :
    verdict context message expected (.ok found) =
      (.failed, faultHistory context message
        ("Expected " ++ expected.shown ++ " but got " ++ found)) := by
  rw [verdict, if_neg (mt Json.text?_eq_some_iff.mp different)]

theorem verdict_eq_passed_iff :
    (verdict context message expected reply).1 = .passed ↔
      ∃ text, expected = .text text ∧ reply = .ok text := by
  cases reply with
  | error error => simp [verdict]
  | ok found =>
      by_cases same : expected = .text found
      · simp [verdict, same, Json.text?]
      · rw [verdict_of_ne context message same]
        refine iff_of_false (by rintro ⟨⟩) ?_
        rintro ⟨text, rfl, replied⟩
        cases replied
        exact same rfl

theorem calls_verdict (context : Context) (message : String) (expected : Json)
    (reply : Except EngineError String) :
    (verdict context message expected reply).2.filterMap Occurrence.call? = [] := by
  unfold verdict
  split
  · split <;> rfl
  · rfl

theorem signals_verdict (context : Context) (message : String) (expected : Json)
    (reply : Except EngineError String) :
    (verdict context message expected reply).2.filterMap Occurrence.signal? =
      [((verdict context message expected reply).1, context.scenario, context.index)] := by
  unfold verdict
  split
  · split <;> rfl
  · rfl

/-- A verdict holds no warning of any kind. -/
theorem not_mem_verdict (context : Context) (message : String) (expected : Json)
    (reply : Except EngineError String) (text : String) :
    .log .warning text ∉
      (verdict context message expected reply).2.filterMap Occurrence.event? := by
  unfold verdict
  split
  · split <;> simp [faultHistory]
  · simp [faultHistory]

theorem aftermath_eq_passed_iff :
    (aftermath context message selector expected ms reply ending).1 = .passed ↔
      ending = .met ∧ ∃ text, expected = .text text ∧ reply = .ok text := by
  cases ending with
  | met => simpa [aftermath] using verdict_eq_passed_iff
  | failed error => simp [aftermath]
  | elapsed => simp [aftermath]

theorem calls_aftermath :
    (aftermath context message selector expected ms reply ending).2.filterMap Occurrence.call? =
      if ending = .met then [.fetchText selector] else [] := by
  cases ending with
  | met => simp [aftermath, calls_caution, calls_verdict]
  | failed error => rfl
  | elapsed => rfl

theorem signals_aftermath :
    (aftermath context message selector expected ms reply ending).2.filterMap Occurrence.signal? =
      [((aftermath context message selector expected ms reply ending).1, context.scenario,
        context.index)] := by
  cases ending with
  | met =>
      rw [aftermath, List.filterMap_append, List.filterMap_append, signals_caution,
        signals_verdict]
      rfl
  | failed error => rfl
  | elapsed => rfl

theorem events_aftermath_met :
    (aftermath context message selector expected ms reply .met).2.filterMap Occurrence.event? =
      (if expected.isText then [] else [.log .warning Action.notTextWarning]) ++
        (verdict context message expected reply).2.filterMap Occurrence.event? := by
  have silent : [.answered (.fetchText selector) ms reply].filterMap Occurrence.event? = [] := rfl
  rw [aftermath, List.filterMap_append, List.filterMap_append, events_caution, silent,
    List.append_nil]

theorem count_aftermath :
    ((aftermath context message selector expected ms reply ending).2.filterMap
      Occurrence.event?).count (.log .warning Action.notTextWarning) =
        if ending = .met ∧ expected.isText = false then 1 else 0 := by
  cases ending with
  | met =>
      have none := List.count_eq_zero.mpr
        (not_mem_verdict context message expected reply Action.notTextWarning)
      rw [events_aftermath_met, List.count_append, none]
      cases expected.isText <;> simp
  | failed error => simp [aftermath, faultHistory]
  | elapsed => simp [aftermath, timeoutHistory, Action.notTextWarning]

/-- The last event of a step, about its picture, is neither a report nor a warning of this kind. -/
theorem aftermath_compares {last : Event} {calls : List Call} (unsigned : last.signal? = none)
    (unlike : last ≠ .log .warning Action.notTextWarning)
    (fetched : calls.filter Call.fetches = if ending = .met then [.fetchText selector] else []) :
    Step.Compares context message selector expected ending reply
      (aftermath context message selector expected ms reply ending).1
      ((aftermath context message selector expected ms reply ending).2.filterMap
        Occurrence.event? ++ [last]) calls where
  passed := aftermath_eq_passed_iff
  mismatched := by
    rintro found rfl rfl different
    rw [events_aftermath_met, verdict_of_ne context message different]
    exact ⟨by simp [aftermath, verdict_of_ne context message different], _, [last],
      by simp [faultHistory]; rfl⟩
  unanswered := by
    rintro error rfl rfl
    rw [events_aftermath_met]
    exact ⟨rfl, _, [last], by simp [verdict, faultHistory]; rfl⟩
  unmet := ⟨by rintro rfl; rfl, by rintro error rfl; rfl⟩
  signalled := by
    rw [List.filterMap_append, ← filterMap_signal?, signals_aftermath]
    simp [unsigned]
  warned := by
    have picture := List.count_eq_zero.mpr (mt List.mem_singleton.mp (Ne.symm unlike))
    rw [List.count_append, count_aftermath, picture, Nat.add_zero]
  cautious := by
    rintro rfl odd
    rw [events_aftermath_met, odd]
    rfl
  fetched := fetched

/-- No error of an engine can make the line about a picture look like the warning. -/
theorem captureFailed_ne_notTextWarning (reason : String) :
    "Capture failed: " ++ reason ≠ Action.notTextWarning := by
  intro same
  have heads := congrArg (fun text => text.toList.head?) same
  rw [String.toList_append] at heads
  cases heads

end Step

namespace World

variable {σ : Type} (engine : Engine σ) (config : Config) (context : Context)

/-- A step that is to see a value passes if and only if its selector comes up in time, the value is
a text and the element has just this text.  Nothing is trimmed or converted: a value that merely
looks like the text is told from it, and makes for a warning. -/
theorem execute_compares (voice : Voice) (name selector : String) (expected : Json)
    (world : World σ) :
    let step := (Action.seeTheValueOf name selector expected).voiced voice
    let entered := world.write (Ledger.enter context.scenario context.index)
    let ending := (entered.await engine config (.selector selector)).1
    let waited := (entered.await engine config (.selector selector)).2
    ∃ outcome after events calls,
      world.execute engine config context step = (some outcome, after) ∧
      after.ledger.events.toList = world.ledger.events.toList ++ events ∧
      after.calls.toList.map Prod.snd = world.calls.toList.map Prod.snd ++ calls ∧
      Step.Compares context step.message selector expected ending
        (waited.call engine (.fetchText selector)).1 outcome events calls ∧
      (0 < config.pollIntervalMs →
        (ending = .met ↔ (engine.course (.selector selector) world.state).Meets
          config.pollIntervalMs config.timeoutMs)) := by
  intro step entered ending waited
  obtain ⟨waiting, awaits, elapsed, unfolds⟩ :=
    await_unfolds engine config (.selector selector) entered
  obtain ⟨ms, outcome, gone⟩ :=
    waitAndProceed_compares engine config context (Action.voiced_does voice _) unfolds
  obtain ⟨picture, pictured, taken⟩ := capture_unfolds engine config context step.message
    (entered.waitAndProceed engine config context step (.selector selector)).2
  have whole := (Undergoes.entered world context.scenario context.index).unfolds.append
    (gone.append taken)
  obtain ⟨last, shown, unsigned, pictures⟩ := pictured.last
  have unlike : last ≠ .log .warning Action.notTextWarning := by
    rcases pictures with rfl | ⟨error, rfl⟩
    · rintro ⟨⟩
    · exact fun same => Step.captureFailed_ne_notTextWarning _ (Event.log.inj same).2
  -- neither the probes nor the picture ask for a text
  have probes : (waiting.filterMap Occurrence.call?).filter Call.fetches = [] := by
    refine List.filter_eq_nil_iff.mpr ?_
    intro call asked
    rw [awaits.calls call asked]
    exact Bool.false_ne_true
  refine ⟨_, _, _, _, Prod.ext (congrArg some outcome) rfl, whole.events, whole.calls, ?_, ?_⟩
  · have events : (waiting ++ waitRemark (.selector selector) elapsed ending).filterMap
        Occurrence.event? = [] := by
      rw [List.filterMap_append, awaits.events, events_waitRemark, List.nil_append]
    rw [List.filterMap_append, List.filterMap_append, List.filterMap_append, events, shown]
    refine Step.aftermath_compares unsigned unlike ?_
    rw [List.filterMap_append, List.filterMap_append, List.filterMap_append,
      List.filterMap_append, calls_waitRemark, Step.calls_aftermath, pictured.calls,
      List.append_nil, List.filter_append, List.filter_append, List.filter_append, probes]
    by_cases met : ending = .met
    · rw [if_pos met]
      rfl
    · rw [if_neg met]
      rfl
  · exact await_met_iff engine config (.selector selector) entered

end World

/-- A page on which an element has the text "12". -/
def Page.counting : World Page :=
  .initial (.ofFacts [.elementText "#count" "12"])

def Context.counting : Context :=
  { voice := some .then, scenario := "Counting", index := 2 }

def Step.countIs (expected : Json) : Step :=
  (Action.seeTheValueOf "the count" "#count" expected).voiced .then

/-- The text and the number look the same in the message of the step, and only the text passes. -/
theorem Step.countIs_text_not_number :
    let text := Page.counting.execute Page.engine .default .counting (countIs (.text "12"))
    let number :=
      Page.counting.execute Page.engine .default .counting (countIs (.number (.integer 12)))
    0 < Config.default.pollIntervalMs ∧
      (countIs (.text "12")).message = (countIs (.number (.integer 12))).message ∧
      text.1 = some .passed ∧ number.1 = some .failed ∧
      ∃ outcome after events calls,
        number = (some outcome, after) ∧
        after.ledger.events.toList = Page.counting.ledger.events.toList ++ events ∧
        after.calls.toList.map Prod.snd = Page.counting.calls.toList.map Prod.snd ++ calls ∧
        Step.Compares .counting (countIs (.number (.integer 12))).message "#count"
          (.number (.integer 12)) .met (.ok "12") outcome events calls ∧
        (Page.engine.course (.selector "#count") Page.counting.state).Meets 100 5000 := by
  refine ⟨by decide, by decide, rfl, rfl, ?_⟩
  obtain ⟨outcome, after, events, calls, executed, told, asked, compares, met⟩ :=
    World.execute_compares Page.engine .default .counting .then "the count" "#count"
      (.number (.integer 12)) Page.counting
  exact ⟨outcome, after, events, calls, executed, told, asked, compares,
    (met (by decide)).mp rfl⟩

end Rehearsal

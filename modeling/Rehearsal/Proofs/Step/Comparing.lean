import Rehearsal.Proofs.Step.Filling
import Rehearsal.Proofs.Step.Noting

/-!
Values that are no texts.

No text equals such a value, so a step that compares one with the text of an element never passes.
It says so before it fetches the text, if it comes to that.
-/

namespace Rehearsal

namespace Step

variable {config : Config} {context : Context} {step : Step} {message selector : String}
  {expected : Json} {history : List Occurrence}

theorem Does.works_of_notText {performance : Performance}
    (does : step.Does (.seeTheValueOf message selector expected))
    (odd : expected.isText = false)
    (works : step.Works config context history performance) :
    ∃ ms reply error,
      history = [.recorded (.log .warning Action.notTextWarning),
        .answered (.fetchText selector) ms reply] ∧
      performance = { result := .error error, reported := none } := by
  have textless : expected.text? = none := by
    rwa [Json.isText, Option.isSome_eq_false_iff, Option.isNone_iff_eq_none] at odd
  unfold Works at works
  rw [does.callback] at works
  simp only [Action.seeTheValueOf, Action.onSelector, odd, Action.compareText, textless] at works
  cases works with
  | log works =>
      obtain ⟨ms, ⟨reply, rest, rfl, compares⟩ | ⟨error, rfl, rfl⟩⟩ := Program.performs_ask works
      · cases compares
        exact ⟨ms, .ok reply, _, rfl, rfl⟩
      · exact ⟨ms, .error error, _, rfl, rfl⟩

/-- Behind a wait that has been met the step warns and fetches the text; it fails then, and after
a wait that has not been met. -/
theorem Follows.compares {rest : List Occurrence} {ending : WaitEnd} {outcome : Outcome}
    (does : step.Does (.seeTheValueOf message selector expected))
    (odd : expected.isText = false)
    (follows : step.Follows config context ending rest outcome) :
    (∃ outcome, outcome ≠ .passed ∧
        rest.filterMap Occurrence.signal? = [(outcome, context.scenario, context.index)]) ∧
      (ending = .met → ∃ ms reply reason,
        rest = .recorded (.log .warning Action.notTextWarning) ::
          .answered (.fetchText selector) ms reply ::
            faultHistory context step.message reason) := by
  cases follows with
  | elapsed => exact ⟨⟨.timedOut, by decide, rfl⟩, by rintro ⟨⟩⟩
  | unanswered => exact ⟨⟨.failed, by decide, rfl⟩, by rintro ⟨⟩⟩
  | failed works =>
      obtain ⟨ms, reply, error, rfl, -⟩ := does.works_of_notText odd works
      exact ⟨⟨.failed, by decide, rfl⟩, fun _ => ⟨ms, reply, _, rfl⟩⟩
  | reported works =>
      obtain ⟨ms, reply, error, -, performance⟩ := does.works_of_notText odd works
      cases performance
  | passed works =>
      obtain ⟨ms, reply, error, -, performance⟩ := does.works_of_notText odd works
      cases performance

theorem Follows.unseen {rest : List Occurrence} {ending : WaitEnd} {outcome : Outcome}
    (unmet : ending ≠ .met) (follows : step.Follows config context ending rest outcome)
    (selector : String) : rest.any (Occurrence.shows selector) = false := by
  cases follows with
  | elapsed | unanswered => rfl
  | failed | reported | passed => exact (unmet rfl).elim

/-- A step that is to see a value other than a text does not pass, and if its selector comes up it
warns before it fetches the text. -/
theorem Unrolls.compares {outcome : Option Outcome}
    (does : step.Does (.seeTheValueOf message selector expected))
    (odd : expected.isText = false) (unrolls : step.Unrolls config context history outcome) :
    (∃ outcome, outcome ≠ .passed ∧
        history.filterMap Occurrence.signal? = [(outcome, context.scenario, context.index)]) ∧
      (history.any (Occurrence.shows selector) = true → ∃ early ms reply late,
        history = early ++ .recorded (.log .warning Action.notTextWarning) ::
          .answered (.fetchText selector) ms reply :: late ∧
        ∀ call ∈ (early ++ late).filterMap Occurrence.call?, call ≠ .fetchText selector) := by
  have waits : step.strategy = .wait (.selector selector) := does.strategy
  obtain ⟨waiting, ending, elapsed, rest, picture, result, -, rfl, awaits, follows, pictured⟩ :=
    unrolls.of_wait waits
  obtain ⟨⟨outcome, unpassed, signed⟩, warned⟩ := follows.compares does odd
  have remarked :
      (World.waitRemark (.selector selector) elapsed ending).filterMap Occurrence.signal? =
        [] := by
    cases ending <;> rfl
  refine ⟨⟨outcome, unpassed, ?_⟩, ?_⟩
  · simp only [List.filterMap_cons, Occurrence.signal?_entered, List.filterMap_append,
      awaits.signals, remarked, signed, signals_lastWords, pictured.signals, List.nil_append,
      List.append_nil]
  · intro shown
    rw [shows_waited awaits pictured] at shown
    by_cases met : ending = .met
    · obtain ⟨ms, reply, reason, rfl⟩ := warned met
      refine ⟨.entered context.scenario context.index ::
        (waiting ++ World.waitRemark (.selector selector) elapsed ending), ms, reply,
        faultHistory context step.message reason ++ (step.lastWords ++ picture), by simp, ?_⟩
      rw [List.filterMap_append, List.forall_mem_append]
      constructor
      · rw [List.filterMap_cons, Occurrence.call?_entered, List.filterMap_append,
          List.forall_mem_append]
        refine ⟨?_, by cases ending <;> simp [World.waitRemark]⟩
        intro call membership
        rw [awaits.calls call membership]
        simp [Condition.probe]
      · rw [List.filterMap_append, List.filterMap_append, calls_lastWords, pictured.calls]
        simp [faultHistory]
    · rw [follows.unseen met, decide_eq_false met] at shown
      cases shown

end Step

end Rehearsal

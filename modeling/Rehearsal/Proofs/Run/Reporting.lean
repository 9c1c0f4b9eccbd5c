import Rehearsal.Proofs.Run.Stepping
import Rehearsal.Proofs.Step.BuiltIn

/-!
How a step is reported.

A built-in step that waits is reported by what becomes of its wait and of its work, and one that
does not wait reports for itself; an address that is opened goes without a report.
-/

namespace Rehearsal

namespace Step

/-- The step goes to an address, and the engine has opened it. -/
def Opened (step : Step) (history : List Occurrence) : Prop :=
  ∃ message url ms,
    step.Does (.goTo message url) ∧ Occurrence.answered (.visit url) ms (.ok ()) ∈ history

/-- The step has come to grief over an error, which the text tells: the engine has failed in its
wait, or its work has failed. -/
inductive Fails (config : Config) (context : Context) (step : Step) :
    List Occurrence → String → Prop where
  | unanswered {condition : Condition} {waiting rest : List Occurrence} {error : EngineError} :
      step.strategy = .wait condition →
      condition.Awaits config.pollIntervalMs waiting (.failed error) →
      Fails config context step (.entered context.scenario context.index :: (waiting ++ rest))
        error.message
  | failed {beginning working rest : List Occurrence} {error : StepError}
      {reported : Option Outcome} :
      step.Begins config beginning →
      step.Works config context working { result := .error error, reported } →
      Fails config context step
        (.entered context.scenario context.index :: (beginning ++ (working ++ rest)))
        error.message

variable {config : Config} {context : Context} {step : Step} {course : List Occurrence}
  {outcome : Outcome}

theorem Goes.opening {message url : String} (does : step.Does (.goTo message url))
    (goes : step.Goes config context course outcome) :
    ∃ ms, course = [.answered (.visit url) ms (.ok ())] ∨
      ∃ error : EngineError, course = .answered (.visit url) ms (.error error) ::
        faultHistory context step.message error.message := by
  rcases goes.acts does.strategy with ⟨working, error, reported, rfl, works⟩ | ⟨reported, works⟩
  · obtain ⟨ms, ⟨-, performance⟩ | ⟨error, rfl, performance⟩⟩ := does.works_of_goTo works
    · cases performance
    · cases performance
      exact ⟨ms, .inr ⟨error, rfl⟩⟩
  · obtain ⟨ms, ⟨rfl, -⟩ | ⟨error, -, performance⟩⟩ := does.works_of_goTo works
    · exact ⟨ms, .inl rfl⟩
    · cases performance

/-- A step whose work is quiet is reported once behind its wait: by a timeout, by a failure, or
because nothing has gone wrong. -/
theorem Follows.signals_of_quiet {action : Action} {ending : WaitEnd} {rest : List Occurrence}
    (does : step.Does action)
    (quiet : ∀ callback, action.callback = some callback → ∀ cue, (callback cue).Quiet)
    (follows : step.Follows config context ending rest outcome) :
    rest.filterMap Occurrence.signal? = [(outcome, context.scenario, context.index)] := by
  cases follows with
  | elapsed | unanswered => rfl
  | failed works | passed works =>
      rw [List.filterMap_append, (does.works_of_quiet quiet works).1]
      rfl
  | reported works =>
      -- Quiet work cannot have reported anything.
      have unreported := (does.works_of_quiet quiet works).2
      cases unreported

/-- A built-in step that waits is reported as it has come out. -/
theorem Goes.signal_of_quiet {action : Action} {condition : Condition}
    (does : step.Does action) (waits : action.strategy = .wait condition)
    (quiet : ∀ callback, action.callback = some callback → ∀ cue, (callback cue).Quiet)
    (goes : step.Goes config context course outcome) :
    course.filterMap Occurrence.signal? = [(outcome, context.scenario, context.index)] := by
  obtain ⟨waiting, ending, elapsed, rest, rfl, awaits, follows⟩ :=
    goes.waited (does.strategy.trans waits)
  rw [List.filterMap_append, List.filterMap_append, awaits.signals,
    filterMap_signal? (World.waitRemark condition elapsed ending), World.events_waitRemark,
    follows.signals_of_quiet does quiet]
  rfl

/-- A built-in step that reports for itself is reported once: in that way, or because its work has
failed before. -/
theorem Goes.signal_of_telling {callback : Callback} (immediate : step.strategy = .immediate)
    (work : step.callback = some callback) (telling : ∀ cue, (callback cue).Telling)
    (goes : step.Goes config context course outcome) :
    course.filterMap Occurrence.signal? = [(outcome, context.scenario, context.index)] := by
  have performs : ∀ {working : List Occurrence} {performance : Performance},
      step.Works config context working performance →
        ((∃ error, performance = { result := .error error, reported := none }) ∧
            working.filterMap Occurrence.signal? = [] ∨
          ∃ outcome, performance = { result := .ok (), reported := some outcome } ∧
            working.filterMap Occurrence.signal? =
              [(outcome, context.scenario, context.index)]) := by
    intro working performance works
    unfold Works at works
    rw [work] at works
    exact (telling _).performs works
  cases goes with
  | elapsed waits | unanswered waits | passed waits => cases waits.symm.trans immediate
  | failed begins works =>
      obtain rfl := begins.eq_nil immediate
      rcases performs works with ⟨-, unsigned⟩ | ⟨other, performance, -⟩
      · rw [List.nil_append, List.filterMap_append, unsigned]
        rfl
      · cases performance
  | reported begins works =>
      obtain rfl := begins.eq_nil immediate
      rcases performs works with ⟨⟨error, performance⟩, -⟩ | ⟨other, performance, signed⟩
      · cases performance
      · cases performance
        exact signed
  | unreported _ works =>
      rcases performs works with ⟨⟨error, performance⟩, -⟩ | ⟨other, performance, -⟩
      · cases performance
      · cases performance

theorem Goes.signal {action : Action} (does : step.Does action) (builtIn : action.BuiltIn)
    (elsewhere : ∀ message url, ¬step.Does (.goTo message url))
    (goes : step.Goes config context course outcome) :
    ∃ outcome, course.filterMap Occurrence.signal? =
      [(outcome, context.scenario, context.index)] := by
  rcases builtIn.work with ⟨condition, waits, quiet⟩ | ⟨immediate, ⟨message, url, rfl⟩ | telling⟩
  · exact ⟨_, goes.signal_of_quiet does waits quiet⟩
  · exact (elsewhere message url does).elim
  · obtain ⟨callback, work, telling⟩ := telling
    exact ⟨_, goes.signal_of_telling (does.strategy.trans immediate) (does.callback.trans work)
      telling⟩

/-- An error over which a step comes to grief is told behind the report of the failure. -/
theorem Goes.fault {history tail : List Occurrence} {reason : String}
    (goes : step.Goes config context course outcome)
    (fails : step.Fails config context history reason)
    (same : history = .entered context.scenario context.index :: (course ++ tail)) :
    ∃ before, course.filterMap Occurrence.event? =
      before ++ [.failed context.scenario context.index step.message,
        .log .error ("Error: " ++ reason)] := by
  cases fails with
  | unanswered waits awaits =>
      have same := (List.cons.inj same).2
      cases goes with
      | elapsed also ends =>
          cases waits.symm.trans also
          rw [List.append_assoc] at same
          cases (awaits.unique ends same).2.1
      | unanswered also ends =>
          cases waits.symm.trans also
          rw [List.append_assoc] at same
          cases (awaits.unique ends same).2.1
          refine ⟨[], ?_⟩
          rw [List.filterMap_append, ends.events]
          rfl
      | failed begins | reported begins | passed _ begins =>
          rw [List.append_assoc] at same
          cases begins.unique_met waits awaits same.symm
      | unreported immediate => cases waits.symm.trans immediate
  | failed begins works =>
      have same := (List.cons.inj same).2
      cases goes with
      | elapsed waits ends | unanswered waits ends =>
          rw [List.append_assoc] at same
          cases begins.unique_met waits ends same
      | @failed _ working _ _ also ends =>
          rw [List.append_assoc] at same
          obtain ⟨rfl, behind⟩ := begins.unique also same
          rw [List.append_assoc] at behind
          cases (works.unique ends behind).2.1
          refine ⟨working.filterMap Occurrence.event?, ?_⟩
          rw [List.filterMap_append, List.filterMap_append, begins.events]
          rfl
      | reported also ends =>
          rw [List.append_assoc] at same
          obtain ⟨rfl, behind⟩ := begins.unique also same
          cases (works.unique ends behind).2.1
      | passed _ also ends =>
          rw [List.append_assoc] at same
          obtain ⟨rfl, behind⟩ := begins.unique also same
          rw [List.append_assoc] at behind
          cases (works.unique ends behind).2.1
      | unreported immediate ends =>
          obtain rfl := begins.eq_nil immediate
          cases (works.unique ends same).2.1

end Step

theorem Step.not_fails_of_banner {config : Config} {context : Context} {step : Step}
    {history : List Occurrence} {reason : String} (banner : step.strategy = .banner) :
    ¬step.Fails config context history reason := by
  intro fails
  cases fails with
  | unanswered waits => cases banner.symm.trans waits
  | failed begins =>
      cases begins with
      | atOnce immediate => cases banner.symm.trans immediate
      | waited waits => cases banner.symm.trans waits

end Rehearsal

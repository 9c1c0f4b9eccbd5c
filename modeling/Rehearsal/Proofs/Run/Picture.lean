import Rehearsal.Proofs.Step.BuiltIn

/-!
The picture at the end of a step.

Nothing that comes to pass before it takes a picture or shows one in the timeline, so that the
evidence of a step is the picture with which the step ends, if there is one.
-/

namespace Rehearsal

/-- The engine has taken a picture and left it under a path. -/
def Occurrence.takes (path : String) : Occurrence → Bool
  | .answered (.capture taken) _ (.ok _) => taken == path
  | _ => false

theorem Occurrence.call?_of_takes {path : String} {occurrence : Occurrence}
    (taken : occurrence.takes path = true) : occurrence.call? = some (.capture path) := by
  unfold takes at taken
  split at taken
  next other ms reply => rw [call?_answered, eq_of_beq taken]
  next => cases taken

theorem takes_eq_false_of_ordinary {history : List Occurrence}
    (ordinary : ∀ call ∈ history.filterMap Occurrence.call?, call.Ordinary) (path : String) :
    history.any (Occurrence.takes path) = false := by
  rw [List.any_eq_false]
  intro occurrence membership taken
  exact ordinary (.capture path)
    (List.mem_filterMap.mpr ⟨occurrence, membership, Occurrence.call?_of_takes taken⟩)

variable {config : Config} {context : Context} {step : Step} {history : List Occurrence}

theorem evidence_of_spoken {events : List Event} (spoken : ∀ event ∈ events, event.Spoken) :
    events.filterMap Event.evidence? = [] := by
  rw [List.filterMap_eq_nil_iff]
  intro event membership
  have speaks := spoken event membership
  cases event with
  | captured => exact speaks.elim
  | _ => rfl

namespace Step

theorem Goes.evidence {outcome : Outcome} (goes : step.Goes config context history outcome) :
    (history.filterMap Occurrence.event?).filterMap Event.evidence? = [] := by
  rcases goes.events with timeout | spoken
  · rw [timeout]
    rfl
  · exact evidence_of_spoken spoken

theorem evidence_lastWords (step : Step) :
    (step.lastWords.filterMap Occurrence.event?).filterMap Event.evidence? = [] := by
  unfold lastWords
  split <;> rfl

end Step

theorem Evidence.Pictured.shown {evidence : Evidence} {picture : List Occurrence}
    (pictured : evidence.Pictured picture) :
    (picture.filterMap Occurrence.event?).filterMap Event.evidence? =
      if picture.any (Occurrence.takes evidence.path) then [evidence] else [] := by
  cases pictured with
  | captured => simp [List.filterMap_cons, Occurrence.takes, Event.evidence?]
  | refused => simp [List.filterMap_cons, Occurrence.takes, Event.evidence?]

/-- A step made of a built-in action has its picture taken at its end, and none before. -/
theorem Step.Unrolls.pictured {action : Action} {outcome : Option Outcome}
    (does : step.Does action) (builtIn : action.BuiltIn) (other : step.strategy ≠ .banner)
    (unrolls : step.Unrolls config context history outcome) :
    ∃ before picture, history = before ++ picture ∧
      (context.evidence config step.message).Pictured picture ∧
      (∀ call ∈ before.filterMap Occurrence.call?, call.Ordinary) ∧
      (before.filterMap Occurrence.event?).filterMap Event.evidence? = [] := by
  cases unrolls with
  | banner banner => exact (other banner).elim
  | @step course picture outcome _ goes pictured =>
      refine ⟨.entered context.scenario context.index :: (course ++ step.lastWords), picture,
        by simp, pictured, ?_, ?_⟩
      · rw [List.filterMap_cons, Occurrence.call?_entered, List.filterMap_append,
          calls_lastWords, List.append_nil]
        exact (does.within_ordinary builtIn).goes other goes
      · rw [List.filterMap_cons, Occurrence.event?_entered, List.filterMap_append,
          List.filterMap_append, evidence_lastWords, List.append_nil]
        exact goes.evidence

end Rehearsal

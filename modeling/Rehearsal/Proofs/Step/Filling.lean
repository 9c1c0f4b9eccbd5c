import Rehearsal.Proofs.Step.BuiltIn

/-!
Forms that are filled in.

A step that fills in a form does so once if its selector comes up while it waits, and not at all if
it does not.
-/

namespace Rehearsal

/-- The call fills in a form. -/
def Call.isFill : Call → Bool
  | .fill .. => true
  | _ => false

/-- The engine has found a selector. -/
def Occurrence.shows (selector : String) : Occurrence → Bool
  | .answered (.selectorExists target) _ (.ok true) => target == selector
  | _ => false

/-- The calls of a history that fill in forms. -/
def fillings (history : List Occurrence) : List Call :=
  (history.filterMap Occurrence.call?).filter Call.isFill

@[simp]
theorem fillings_append (front back : List Occurrence) :
    fillings (front ++ back) = fillings front ++ fillings back := by
  simp [fillings]

namespace Condition

variable {condition : Condition} {interval : Nat} {history : List Occurrence} {ending : WaitEnd}

theorem Awaits.fillings (awaits : condition.Awaits interval history ending) :
    fillings history = [] := by
  rw [Rehearsal.fillings, List.filter_eq_nil_iff]
  intro call membership
  rw [awaits.calls call membership]
  cases condition <;> simp [probe, Call.isFill]

/-- A wait for a selector is met when the selector is found, and only then. -/
theorem Awaits.shows {selector : String}
    (awaits : (Condition.selector selector).Awaits interval history ending) :
    history.any (Occurrence.shows selector) = decide (ending = .met) := by
  induction awaits with
  | @met ms found holds =>
      obtain rfl : found = true := holds
      simp [probe, Occurrence.shows]
  | failed | dropped | unrested => simp [probe, Occurrence.shows]
  | @elapsed ms left found fails =>
      obtain rfl : found = false := fails
      simp [probe, Occurrence.shows]
  | @again ms found rest ending fails _ inductionHypothesis =>
      obtain rfl : found = false := fails
      simpa [probe, Occurrence.shows] using inductionHypothesis

end Condition

namespace Step

variable {config : Config} {context : Context} {step : Step} {message selector : String}
  {form : FormData} {submit : Bool}

/-- A selector comes up while a step waits for it, or else behind the wait. -/
theorem shows_waited {interval : Nat} {waiting rest picture : List Occurrence}
    {ending : WaitEnd} {evidence : Evidence}
    (awaits : (Condition.selector selector).Awaits interval waiting ending)
    (pictured : evidence.Pictured picture) (step : Step) (elapsed : Nat) :
    (.entered context.scenario context.index ::
        (waiting ++ (World.waitRemark (.selector selector) elapsed ending ++ rest) ++
          (step.lastWords ++ picture))).any (Occurrence.shows selector) =
      (decide (ending = .met) || rest.any (Occurrence.shows selector)) := by
  have remarked : (World.waitRemark (.selector selector) elapsed ending).any
      (Occurrence.shows selector) = false := by
    cases ending <;> rfl
  have words : step.lastWords.any (Occurrence.shows selector) = false := by
    unfold lastWords
    split <;> rfl
  have taken : picture.any (Occurrence.shows selector) = false := by
    cases pictured <;> rfl
  simp [awaits.shows, remarked, words, taken, Occurrence.shows]

/-- Behind its wait a step fills in its form if the wait has been met, and finds nothing more. -/
theorem Follows.fillings {rest : List Occurrence} {ending : WaitEnd} {outcome : Outcome}
    (does : step.Does (.fill message selector form (some submit)))
    (follows : step.Follows config context ending rest outcome) :
    fillings rest = (if ending = .met then [.fill selector form submit] else []) ∧
      rest.any (Occurrence.shows selector) = false := by
  -- Whether it comes off or not, the work is this one call.
  have works : ∀ {working : List Occurrence} {performance : Performance},
      step.Works config context working performance →
        Rehearsal.fillings working = [.fill selector form submit] ∧
          working.any (Occurrence.shows selector) = false := by
    intro working performance works
    obtain ⟨ms, ⟨reply, rfl, -⟩ | ⟨error, rfl, -⟩⟩ := does.works_of_tell rfl works
    · exact ⟨rfl, rfl⟩
    · exact ⟨rfl, rfl⟩
  cases follows with
  | elapsed | unanswered => exact ⟨rfl, rfl⟩
  | failed ends | passed ends =>
      rw [fillings_append, List.any_append, (works ends).1, (works ends).2]
      exact ⟨rfl, rfl⟩
  | reported ends => exact works ends

/-- A form is filled in once if its selector comes up, and else not at all. -/
theorem Unrolls.fillings {history : List Occurrence} {outcome : Option Outcome}
    (does : step.Does (.fill message selector form (some submit)))
    (unrolls : step.Unrolls config context history outcome) :
    fillings history =
      if history.any (Occurrence.shows selector) then [.fill selector form submit] else [] := by
  have waits : step.strategy = .wait (.selector selector) := does.strategy
  obtain ⟨waiting, ending, elapsed, rest, picture, result, -, rfl, awaits, follows, pictured⟩ :=
    unrolls.of_wait waits
  obtain ⟨filled, unseen⟩ := follows.fillings does
  have remarked : Rehearsal.fillings (World.waitRemark (.selector selector) elapsed ending) =
      [] := by
    cases ending <;> rfl
  have words : Rehearsal.fillings step.lastWords = [] := by
    unfold lastWords
    split <;> rfl
  have taken : Rehearsal.fillings picture = [] := by
    cases pictured <;> rfl
  have entered : Rehearsal.fillings [.entered context.scenario context.index] = [] := rfl
  rw [shows_waited awaits pictured, unseen, ← List.singleton_append, fillings_append, entered,
    fillings_append, fillings_append, fillings_append, fillings_append, awaits.fillings,
    remarked, filled, words, taken]
  simp

end Step

end Rehearsal

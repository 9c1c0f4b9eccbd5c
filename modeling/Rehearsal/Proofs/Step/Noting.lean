import Rehearsal.Proofs.Run.Running
import Rehearsal.Proofs.Step.BuiltIn

/-!
Attributes that are noted down.

Only a step that is there to do so notes anything down, and it does so once, if its element is there
and the engine answers for the attribute; then it has passed.
-/

namespace Rehearsal

/-- How a step goes that is to note down an attribute, until it has come to its outcome. -/
inductive Step.Takes (context : Context) (step : Step) (message selector property : String) :
    List Occurrence → Prop where
  | taken {ms more : Nat} {value : Option String} :
      Takes context step message selector property
        [.answered (.selectorExists selector) ms (.ok true),
          .answered (.attributeOf selector property) more (.ok value),
          .recorded (.passed context.scenario context.index ("I note down " ++ message)),
          .recorded (.log .info ("I noted: " ++ value.getD "null")), .noted message value]
  | missing {ms : Nat} :
      Takes context step message selector property
        [.answered (.selectorExists selector) ms (.ok false),
          .recorded (.failed context.scenario context.index ("I note down " ++ message)),
          .recorded
            (.log .info ("Did not find '" ++ message ++ "', using selector: " ++ selector))]
  /-- The engine has failed to say whether the element is there. -/
  | unanswered {ms : Nat} {error : EngineError} :
      Takes context step message selector property
        (.answered (.selectorExists selector) ms (.error error) ::
          faultHistory context step.message error.message)
  /-- The engine has failed to read the attribute. -/
  | unread {ms more : Nat} {error : EngineError} :
      Takes context step message selector property
        (.answered (.selectorExists selector) ms (.ok true) ::
          .answered (.attributeOf selector property) more (.error error) ::
            faultHistory context step.message error.message)

/-- What a step of the pipeline has to do with the notebook. -/
structure Scheduled.Notes (config : Config) (item : Scheduled) (history : List Occurrence) :
    Prop where
  tried : ∀ message selector property,
    item.step.Does (.noteDown message selector property) →
    ∃ course picture,
      history = .entered item.context.scenario item.context.index :: (course ++ picture) ∧
      item.step.Takes item.context message selector property course ∧
      (item.context.evidence config item.step.message).Pictured picture
  other : (∀ message selector property,
      ¬item.step.Does (.noteDown message selector property)) →
    history.filterMap Occurrence.note? = []

/-- What a step of the pipeline notes down is one note, told at the head of its block of the
timeline, and the step has passed once and for all. -/
def Scheduled.Attests (item : Scheduled) (history : List Occurrence) : Prop :=
  ∀ name value, (name, value) ∈ history.filterMap Occurrence.note? →
    history.filterMap Occurrence.note? = [(name, value)] ∧
    history.filterMap Occurrence.signal? =
      [(.passed, item.context.scenario, item.context.index)] ∧
    ∃ rest, history.filterMap Occurrence.event? =
      .passed item.context.scenario item.context.index ("I note down " ++ name) ::
        .log .info ("I noted: " ++ value.getD "null") :: rest

theorem Evidence.Pictured.notes {evidence : Evidence} {picture : List Occurrence}
    (pictured : evidence.Pictured picture) : picture.filterMap Occurrence.note? = [] := by
  cases pictured <;> rfl

theorem Evidence.Pictured.signals {evidence : Evidence} {picture : List Occurrence}
    (pictured : evidence.Pictured picture) : picture.filterMap Occurrence.signal? = [] := by
  cases pictured <;> rfl

namespace Step

variable {config : Config} {context : Context} {step : Step} {history : List Occurrence}

/-- The built-in action that notes something down is the one that is there for it. -/
theorem Does.leaves_noteless {action : Action} (does : step.Does action)
    (builtIn : action.BuiltIn)
    (other : ∀ message selector property, action ≠ .noteDown message selector property)
    (config : Config) (context : Context) :
    step.Leaves (fun occurrence => occurrence.note? = none) config context where
  tells _ _ := rfl
  work _ held :=
    builtIn.leaves (fun _ => rfl) (fun _ _ _ _ => rfl)
      (fun message selector property same => (other message selector property same).elim)
      (does.callback.symm.trans held) _

/-- A step whose work notes nothing down leaves no note behind. -/
theorem Leaves.notes {outcome : Option Outcome}
    (leaves : step.Leaves (fun occurrence => occurrence.note? = none) config context)
    (unrolls : step.Unrolls config context history outcome) :
    history.filterMap Occurrence.note? = [] := by
  have waited : ∀ condition waiting ending elapsed, step.strategy = .wait condition →
      condition.Awaits config.pollIntervalMs waiting ending →
      ∀ occurrence ∈ waiting ++ World.waitRemark condition elapsed ending,
        occurrence.note? = none := by
    intro condition waiting ending elapsed _ awaits
    rw [← List.filterMap_eq_nil_iff, List.filterMap_append, awaits.notes]
    cases ending <;> rfl
  obtain ⟨behind, rfl, noteless⟩ := leaves.unrolls waited
    (fun _ pictured => List.filterMap_eq_nil_iff.mp pictured.notes) unrolls
  exact List.filterMap_eq_nil_iff.mpr (List.forall_mem_cons.mpr ⟨rfl, noteless⟩)

variable {message selector property : String}

theorem Does.works_of_noteDown {performance : Performance}
    (does : step.Does (.noteDown message selector property))
    (works : step.Works config context history performance) :
    (∃ error, performance = { result := .error error, reported := none } ∧
        step.Takes context message selector property
          (history ++ faultHistory context step.message error.message)) ∨
      ∃ outcome, performance = { result := .ok (), reported := some outcome } ∧
        step.Takes context message selector property history := by
  unfold Works at works
  rw [does.callback] at works
  obtain ⟨ms, ⟨found, rest, rfl, goesOn⟩ | ⟨error, rfl, rfl⟩⟩ := Program.performs_ask works
  · cases found with
    | false =>
        cases goesOn with
        | signal goesOn =>
            cases goesOn with
            | log goesOn =>
                cases goesOn
                exact .inr ⟨.failed, rfl, .missing⟩
    | true =>
        obtain ⟨more, ⟨value, others, rfl, reads⟩ | ⟨error, rfl, rfl⟩⟩ :=
          Program.performs_ask goesOn
        · cases reads with
          | signal reads =>
              cases reads with
              | log reads =>
                  cases reads with
                  | note reads =>
                      cases reads
                      exact .inr ⟨.passed, rfl, .taken⟩
        · exact .inl ⟨_, rfl, .unread⟩
  · exact .inl ⟨_, rfl, .unanswered⟩

theorem Goes.takes {outcome : Outcome} (does : step.Does (.noteDown message selector property))
    (goes : step.Goes config context history outcome) :
    step.Takes context message selector property history := by
  rcases goes.acts does.strategy with ⟨working, error, reported, rfl, works⟩ | ⟨reported, works⟩
  · obtain ⟨error, performance, takes⟩ | ⟨outcome, performance, -⟩ := does.works_of_noteDown works
    · cases performance
      exact takes
    · cases performance
  · obtain ⟨error, performance, -⟩ | ⟨outcome, -, takes⟩ := does.works_of_noteDown works
    · cases performance
    · exact takes

end Step

namespace Scheduled

variable {config : Config} {item : Scheduled} {history : List Occurrence}

/-- A step made of a built-in action notes down one attribute or nothing. -/
theorem Unrolls.notes (builtIn : item.step.BuiltIn) (unrolls : item.Unrolls config history) :
    item.Notes config history where
  tried message selector property does := by
    obtain ⟨outcome, unrolls⟩ := unrolls
    obtain ⟨course, picture, result, -, rfl, goes, pictured⟩ := unrolls.of_immediate does.strategy
    exact ⟨_, _, rfl, goes.takes does, pictured⟩
  other other := by
    obtain ⟨outcome, unrolls⟩ := unrolls
    obtain banner | ⟨action, builtIn, does⟩ := builtIn
    · obtain ⟨-, rfl⟩ := unrolls.of_banner banner
      rfl
    · refine (does.leaves_noteless builtIn ?_ config item.context).notes unrolls
      rintro message selector property rfl
      exact other message selector property does

theorem Notes.attests (notes : item.Notes config history) : item.Attests history := by
  intro name value noted
  by_cases tries : ∃ message selector property,
      item.step.Does (.noteDown message selector property)
  · obtain ⟨message, selector, property, does⟩ := tries
    obtain ⟨course, picture, rfl, takes, pictured⟩ := notes.tried message selector property does
    rw [List.filterMap_cons, Occurrence.note?_entered, List.filterMap_append, pictured.notes,
      List.append_nil] at noted ⊢
    rw [List.filterMap_cons, Occurrence.signal?_entered, List.filterMap_append,
      pictured.signals, List.append_nil]
    cases takes with
    | taken =>
        cases List.mem_singleton.mp noted
        exact ⟨rfl, rfl, _, rfl⟩
    | missing | unanswered | unread => cases noted
  · rw [notes.other fun message selector property does =>
      tries ⟨message, selector, property, does⟩] at noted
    cases noted

end Scheduled

end Rehearsal

import Rehearsal.Proofs.Run.Stepping

/-!
What a step may leave behind.

Let some occurrences be allowed.  A program keeps to them if each of its moves does, whatever it is
answered.  A step keeps to them from its beginning to its end if its work does, if it may speak for
itself, and if its wait and its picture keep to them as well.
-/

namespace Rehearsal

/-- If the event reports an outcome, it is that of the step of a context. -/
def Event.About (context : Context) (event : Event) : Prop :=
  ∀ outcome scenario index, event.signal? = some (outcome, scenario, index) →
    scenario = context.scenario ∧ index = context.index

theorem Event.about_of_silent {event : Event} (silent : event.signal? = none)
    (context : Context) : event.About context := by
  intro outcome scenario index tells
  cases silent.symm.trans tells

theorem Event.about_ofSignal (context : Context) (passed : Bool) (message : String) :
    (ofSignal context passed message).About context := by
  intro outcome scenario index tells
  cases passed with
  | false =>
      cases tells
      exact ⟨rfl, rfl⟩
  | true =>
      cases tells
      exact ⟨rfl, rfl⟩

theorem Event.about_timedOut (context : Context) (message : String) :
    Event.About context (.timedOut context.scenario context.index message) := by
  intro outcome scenario index tells
  cases tells
  exact ⟨rfl, rfl⟩

variable {Allowed : Occurrence → Prop} {config : Config} {context : Context}
  {history : List Occurrence}

namespace Program

/-- Whatever it is answered, the program leaves none but allowed occurrences behind. -/
def Leaves (Allowed : Occurrence → Prop) (context : Context) : Program → Prop
  | .done | .fail _ => True
  | .signal passed message next =>
      Allowed (.recorded (.ofSignal context passed message)) ∧ next.Leaves Allowed context
  | .log level text next => Allowed (.recorded (.log level text)) ∧ next.Leaves Allowed context
  | .call request next =>
      ∀ reply, (∀ ms, Allowed (.answered request ms reply)) ∧ (next reply).Leaves Allowed context
  | .sleep ms next => Allowed (.rested ms) ∧ next.Leaves Allowed context
  | .note name value next => Allowed (.noted name value) ∧ next.Leaves Allowed context
  | .signalled next => ∀ reported, (next reported).Leaves Allowed context

theorem Leaves.ask {request : Call} {next : request.Reply → Program}
    (asks : ∀ ms reply, Allowed (.answered request ms reply))
    (others : ∀ reply, (next reply).Leaves Allowed context) :
    (Program.ask request next).Leaves Allowed context := by
  intro reply
  refine ⟨fun ms => asks ms reply, ?_⟩
  cases reply with
  | ok reply => exact others reply
  | error error => trivial

theorem Leaves.performs {program : Program} {reported : Option Outcome}
    {performance : Performance} (leaves : program.Leaves Allowed context)
    (performs : program.Performs context reported history performance) :
    ∀ occurrence ∈ history, Allowed occurrence := by
  induction performs with
  | done | fail => exact List.forall_mem_nil _
  | signal _ inductionHypothesis | log _ inductionHypothesis | sleep _ inductionHypothesis
  | note _ inductionHypothesis =>
      exact List.forall_mem_cons.mpr ⟨leaves.1, inductionHypothesis leaves.2⟩
  | call _ inductionHypothesis =>
      exact List.forall_mem_cons.mpr ⟨(leaves _).1 _, inductionHypothesis (leaves _).2⟩
  | signalled _ inductionHypothesis => exact inductionHypothesis (leaves _)

end Program

namespace Step

variable {step : Step}

/-- The step may say of itself what there is to be said, and its work leaves none but allowed
occurrences behind. -/
structure Leaves (Allowed : Occurrence → Prop) (config : Config) (context : Context)
    (step : Step) : Prop where
  tells : ∀ event, event.About context → Allowed (.recorded event)
  work : ∀ callback, step.callback = some callback →
    (callback { context, message := step.message, config }).Leaves Allowed context

section

variable (leaves : step.Leaves Allowed config context)

include leaves

theorem Leaves.works {performance : Performance}
    (works : step.Works config context history performance) :
    ∀ occurrence ∈ history, Allowed occurrence := by
  unfold Works at works
  split at works
  next callback held => exact (leaves.work callback held).performs works
  next =>
    obtain ⟨rfl, -⟩ := works
    exact List.forall_mem_nil _

theorem Leaves.silent {event : Event} (silent : event.signal? = none) :
    Allowed (.recorded event) :=
  leaves.tells event (Event.about_of_silent silent context)

theorem Leaves.fault (reason : String) :
    ∀ occurrence ∈ faultHistory context step.message reason, Allowed occurrence := by
  have failed := leaves.tells _ (Event.about_ofSignal context false step.message)
  simpa [faultHistory] using ⟨failed, leaves.silent rfl⟩

theorem Leaves.timeout :
    ∀ occurrence ∈ timeoutHistory context step.message, Allowed occurrence := by
  have timedOut := leaves.tells _ (Event.about_timedOut context step.message)
  simpa [timeoutHistory] using ⟨timedOut, leaves.silent rfl⟩

theorem Leaves.passed :
    ∀ occurrence ∈ [.recorded (.passed context.scenario context.index step.message)],
      Allowed occurrence :=
  List.forall_mem_singleton.mpr
    (leaves.tells _ (Event.about_ofSignal context true step.message))

theorem Leaves.banner : ∀ occurrence ∈ bannerHistory context.scenario, Allowed occurrence := by
  simpa [bannerHistory] using ⟨leaves.silent rfl, leaves.silent rfl, leaves.silent rfl⟩

theorem Leaves.lastWords : ∀ occurrence ∈ step.lastWords, Allowed occurrence := by
  unfold Step.lastWords
  split
  · exact List.forall_mem_singleton.mpr (leaves.silent rfl)
  · exact List.forall_mem_nil _

theorem Leaves.follows {ending : WaitEnd} {outcome : Outcome}
    (follows : step.Follows config context ending history outcome) :
    ∀ occurrence ∈ history, Allowed occurrence := by
  cases follows with
  | elapsed => exact leaves.timeout
  | unanswered => exact leaves.fault _
  | failed works => exact List.forall_mem_append.mpr ⟨leaves.works works, leaves.fault _⟩
  | reported works => exact leaves.works works
  | passed works => exact List.forall_mem_append.mpr ⟨leaves.works works, leaves.passed⟩

theorem Leaves.acts {outcome : Outcome} (immediate : step.strategy = .immediate)
    (goes : step.Goes config context history outcome) :
    ∀ occurrence ∈ history, Allowed occurrence := by
  rcases goes.acts immediate with ⟨working, error, reported, rfl, works⟩ | ⟨reported, works⟩
  · exact List.forall_mem_append.mpr ⟨leaves.works works, leaves.fault _⟩
  · exact leaves.works works

variable (waits : ∀ condition waiting ending elapsed, step.strategy = .wait condition →
  condition.Awaits config.pollIntervalMs waiting ending →
  ∀ occurrence ∈ waiting ++ World.waitRemark condition elapsed ending, Allowed occurrence)

include waits

theorem Leaves.goes (other : step.strategy ≠ .banner) {outcome : Outcome}
    (goes : step.Goes config context history outcome) :
    ∀ occurrence ∈ history, Allowed occurrence := by
  cases strategy : step.strategy with
  | banner => exact (other strategy).elim
  | wait condition =>
      obtain ⟨waiting, ending, elapsed, rest, rfl, awaits, follows⟩ := goes.waited strategy
      rw [← List.append_assoc, List.forall_mem_append]
      exact ⟨waits condition waiting ending elapsed strategy awaits, leaves.follows follows⟩
  | immediate => exact leaves.acts strategy goes

/-- What comes to pass behind the entry of a step is allowed throughout. -/
theorem Leaves.unrolls
    (pictures : ∀ picture, (context.evidence config step.message).Pictured picture →
      ∀ occurrence ∈ picture, Allowed occurrence)
    {outcome : Option Outcome} (unrolls : step.Unrolls config context history outcome) :
    ∃ behind, history = .entered context.scenario context.index :: behind ∧
      ∀ occurrence ∈ behind, Allowed occurrence := by
  cases unrolls with
  | banner => exact ⟨_, rfl, leaves.banner⟩
  | step other goes pictured =>
      refine ⟨_, rfl, ?_⟩
      rw [List.forall_mem_append, List.forall_mem_append]
      exact ⟨leaves.goes waits other goes, leaves.lastWords, pictures _ pictured⟩

end

end Step

end Rehearsal

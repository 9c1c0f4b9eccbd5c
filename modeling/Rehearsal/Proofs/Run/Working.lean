import Rehearsal.Proofs.Run.Waiting
import Rehearsal.Run.Execute

/-!
What comes to pass while the work of a step is done.

A program decides, answer by answer, what it does next.  Given the answers, it leaves one history
behind and comes to one end.
-/

namespace Rehearsal

/-- The event by which a step is reported to have passed, or to have failed. -/
def Event.ofSignal (context : Context) (passed : Bool) (message : String) : Event :=
  if passed then .passed context.scenario context.index message
  else .failed context.scenario context.index message

/-- What comes to pass while a program is carried out, and what comes of it; the second argument
is what has been reported before. -/
inductive Program.Performs (context : Context) :
    Program → Option Outcome → List Occurrence → Performance → Prop where
  | done {reported : Option Outcome} :
      Performs context .done reported [] { result := .ok (), reported }
  | fail {error : StepError} {reported : Option Outcome} :
      Performs context (.fail error) reported [] { result := .error error, reported }
  | signal {passed : Bool} {message : String} {next : Program} {reported : Option Outcome}
      {history : List Occurrence} {performance : Performance} :
      Performs context next (some (if passed then .passed else .failed)) history performance →
      Performs context (.signal passed message next) reported
        (.recorded (.ofSignal context passed message) :: history) performance
  | log {level : LogLevel} {text : String} {next : Program} {reported : Option Outcome}
      {history : List Occurrence} {performance : Performance} :
      Performs context next reported history performance →
      Performs context (.log level text next) reported
        (.recorded (.log level text) :: history) performance
  | call {request : Call} {next : Except EngineError request.Reply → Program} {ms : Nat}
      {reply : Except EngineError request.Reply} {reported : Option Outcome}
      {history : List Occurrence} {performance : Performance} :
      Performs context (next reply) reported history performance →
      Performs context (.call request next) reported
        (.answered request ms reply :: history) performance
  | sleep {ms : Nat} {next : Program} {reported : Option Outcome}
      {history : List Occurrence} {performance : Performance} :
      Performs context next reported history performance →
      Performs context (.sleep ms next) reported (.rested ms :: history) performance
  | note {name : String} {value : Option String} {next : Program} {reported : Option Outcome}
      {history : List Occurrence} {performance : Performance} :
      Performs context next reported history performance →
      Performs context (.note name value next) reported (.noted name value :: history) performance
  | signalled {next : Option Outcome → Program} {reported : Option Outcome}
      {history : List Occurrence} {performance : Performance} :
      Performs context (next reported) reported history performance →
      Performs context (.signalled next) reported history performance

/-- An event by which a program speaks for its step. -/
def Event.Spoken : Event → Prop
  | .passed .. | .failed .. | .log .. => True
  | _ => False

namespace Program

variable {context : Context} {program : Program} {reported : Option Outcome}
  {history : List Occurrence} {performance : Performance}

/-- Whatever a program does, it only records what it says. -/
theorem Performs.spoken (performs : program.Performs context reported history performance) :
    ∀ event ∈ history.filterMap Occurrence.event?, event.Spoken := by
  induction performs with
  | done | fail => simp
  | @signal passed message next reported history performance _ inductionHypothesis =>
      rw [List.filterMap_cons, Occurrence.event?_recorded, List.forall_mem_cons]
      refine ⟨?_, inductionHypothesis⟩
      cases passed <;> trivial
  | log _ inductionHypothesis =>
      rw [List.filterMap_cons, Occurrence.event?_recorded, List.forall_mem_cons]
      exact ⟨trivial, inductionHypothesis⟩
  | call _ inductionHypothesis | sleep _ inductionHypothesis | note _ inductionHypothesis =>
      simpa using inductionHypothesis
  | signalled _ inductionHypothesis => exact inductionHypothesis

/-- What comes to pass tells where a program ends, and what comes of it. -/
theorem Performs.unique {other rest others : List Occurrence} {another : Performance}
    (performs : program.Performs context reported history performance)
    (again : program.Performs context reported other another)
    (same : history ++ rest = other ++ others) :
    history = other ∧ performance = another ∧ rest = others := by
  induction performs generalizing other another with
  | done | fail =>
      cases again
      exact ⟨rfl, rfl, same⟩
  | signal _ inductionHypothesis =>
      cases again with
      | signal goesOn =>
          obtain ⟨rfl, rfl, rfl⟩ := inductionHypothesis goesOn (List.cons.inj same).2
          exact ⟨rfl, rfl, rfl⟩
  | log _ inductionHypothesis =>
      cases again with
      | log goesOn =>
          obtain ⟨rfl, rfl, rfl⟩ := inductionHypothesis goesOn (List.cons.inj same).2
          exact ⟨rfl, rfl, rfl⟩
  | call _ inductionHypothesis =>
      cases again with
      | call goesOn =>
          obtain ⟨answer, behind⟩ := List.cons.inj same
          -- The reply is the same one, and so is the program that goes on with it.
          cases answer
          obtain ⟨rfl, rfl, rfl⟩ := inductionHypothesis goesOn behind
          exact ⟨rfl, rfl, rfl⟩
  | sleep _ inductionHypothesis =>
      cases again with
      | sleep goesOn =>
          obtain ⟨rfl, rfl, rfl⟩ := inductionHypothesis goesOn (List.cons.inj same).2
          exact ⟨rfl, rfl, rfl⟩
  | note _ inductionHypothesis =>
      cases again with
      | note goesOn =>
          obtain ⟨rfl, rfl, rfl⟩ := inductionHypothesis goesOn (List.cons.inj same).2
          exact ⟨rfl, rfl, rfl⟩
  | signalled _ inductionHypothesis =>
      cases again with
      | signalled goesOn => exact inductionHypothesis goesOn same

end Program

/-- What comes to pass while the work of a step is done, and what comes of it. -/
def Step.Works (config : Config) (context : Context) (step : Step) (history : List Occurrence)
    (performance : Performance) : Prop :=
  match step.callback with
  | some callback =>
      (callback { context, message := step.message, config }).Performs context none history
        performance
  | none => history = [] ∧ performance = { result := .ok (), reported := none }

namespace Step

variable {config : Config} {context : Context} {step : Step} {history : List Occurrence}
  {performance : Performance}

theorem Works.spoken (works : step.Works config context history performance) :
    ∀ event ∈ history.filterMap Occurrence.event?, event.Spoken := by
  unfold Works at works
  split at works
  next callback _ => exact works.spoken
  next =>
    obtain ⟨rfl, -⟩ := works
    simp

theorem Works.unique {other rest others : List Occurrence} {another : Performance}
    (works : step.Works config context history performance)
    (again : step.Works config context other another)
    (same : history ++ rest = other ++ others) :
    history = other ∧ performance = another ∧ rest = others := by
  unfold Works at works again
  split at works
  next callback held =>
    rw [held] at again
    exact works.unique again same
  next held =>
    rw [held] at again
    obtain ⟨rfl, rfl⟩ := works
    obtain ⟨rfl, rfl⟩ := again
    exact ⟨rfl, rfl, same⟩

end Step

variable {σ : Type}

theorem World.undergoes_signal (engine : Engine σ) (context : Context) (passed : Bool)
    (message : String) (world : World σ) :
    world.Undergoes engine (.recorded (.ofSignal context passed message))
      (world.signal context passed message) := by
  cases passed with
  | false => exact undergoes_write (Ledger.fail_eq_record _ _ message) world
  | true => exact undergoes_write (Ledger.pass_eq_record _ _ message) world

theorem World.undergoes_log (engine : Engine σ) (level : LogLevel) (text : String)
    (world : World σ) :
    world.Undergoes engine (.recorded (.log level text)) (world.log level text) :=
  undergoes_write (Ledger.log_eq_record level text) world

theorem Program.perform_unfolds (engine : Engine σ) (context : Context) (program : Program)
    (reported : Option Outcome) (world : World σ) :
    ∃ history,
      program.Performs context reported history
        (program.perform engine context reported world).1 ∧
      world.Unfolds engine history (program.perform engine context reported world).2 := by
  induction program generalizing reported world with
  | done => exact ⟨[], .done, .done world⟩
  | fail error => exact ⟨[], .fail, .done world⟩
  | signal passed message next inductionHypothesis =>
      obtain ⟨history, performs, unfolds⟩ :=
        inductionHypothesis (some (if passed then .passed else .failed))
          (world.signal context passed message)
      exact ⟨_, .signal performs,
        .step (World.undergoes_signal engine context passed message world) unfolds⟩
  | log level text next inductionHypothesis =>
      obtain ⟨history, performs, unfolds⟩ := inductionHypothesis reported (world.log level text)
      exact ⟨_, .log performs, .step (World.undergoes_log engine level text world) unfolds⟩
  | call request next inductionHypothesis =>
      obtain ⟨history, performs, unfolds⟩ :=
        inductionHypothesis (world.call engine request).1 reported (world.call engine request).2
      exact ⟨_, .call performs, .step (.answered world request) unfolds⟩
  | sleep ms next inductionHypothesis =>
      obtain ⟨history, performs, unfolds⟩ :=
        inductionHypothesis reported { world with clock := world.clock + ms }
      exact ⟨_, .sleep performs, .step (.rested world ms) unfolds⟩
  | note name value next inductionHypothesis =>
      obtain ⟨history, performs, unfolds⟩ :=
        inductionHypothesis reported
          { world with notebook := world.notebook.record name value }
      exact ⟨_, .note performs, .step (.noted world name value) unfolds⟩
  | signalled next inductionHypothesis =>
      obtain ⟨history, performs, unfolds⟩ := inductionHypothesis reported reported world
      exact ⟨_, .signalled performs, unfolds⟩

theorem World.perform_unfolds (engine : Engine σ) (config : Config) (context : Context)
    (step : Step) (world : World σ) :
    ∃ history,
      step.Works config context history (world.perform engine config context step).1 ∧
      world.Unfolds engine history (world.perform engine config context step).2 := by
  unfold Step.Works World.perform
  cases step.callback with
  | none => exact ⟨[], ⟨rfl, rfl⟩, .done world⟩
  | some callback => exact Program.perform_unfolds engine context _ none world

end Rehearsal

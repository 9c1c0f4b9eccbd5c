import Rehearsal.Proofs.Step.Within
import Rehearsal.Step.Action

/-!
Steps made of the built-in actions.

The work of a built-in action keeps to what a step may do: it neither begins nor ends a run nor
takes pictures, and it reports once, at its end, or not at all.
-/

namespace Rehearsal

/-- The actions that come with the library. -/
inductive Action.BuiltIn : Action → Prop where
  | am (message selector : String) : BuiltIn (.am message selector)
  | reached (message : String) (url : UrlPattern) : BuiltIn (.reached message url)
  | fill (message selector : String) (form : FormData) (submit : Option Bool) :
      BuiltIn (.fill message selector form submit)
  | click (message selector : String) : BuiltIn (.click message selector)
  | clickTheLabel (label : String) : BuiltIn (.clickTheLabel label)
  | find (message selector : String) : BuiltIn (.find message selector)
  | findTheVisible (message selector : String) : BuiltIn (.findTheVisible message selector)
  | goTo (message url : String) : BuiltIn (.goTo message url)
  | see (message text : String) : BuiltIn (.see message text)
  | canSee (message text : String) : BuiltIn (.canSee message text)
  | shouldNotSee (message text : String) : BuiltIn (.shouldNotSee message text)
  | cannotFindThe (message selector : String) : BuiltIn (.cannotFindThe message selector)
  | seeTheValueOf (message selector : String) (expected : Json) :
      BuiltIn (.seeTheValueOf message selector expected)
  | noteDown (message selector property : String) : BuiltIn (.noteDown message selector property)

namespace Step

/-- The step does what an action does, in whatever voice and words it is said. -/
structure Does (step : Step) (action : Action) : Prop where
  strategy : step.strategy = action.strategy
  callback : step.callback = action.callback
  info : step.info = action.info

/-- The step is the banner of a scenario or made of a built-in action. -/
def BuiltIn (step : Step) : Prop :=
  step.strategy = .banner ∨ ∃ action : Action, action.BuiltIn ∧ step.Does action

end Step

theorem Action.voiced_does (voice : Voice) (action : Action) :
    (action.voiced voice).Does action :=
  ⟨rfl, rfl, rfl⟩

theorem Action.BuiltIn.voiced {action : Action} (builtIn : action.BuiltIn) (voice : Voice) :
    (action.voiced voice).BuiltIn :=
  .inr ⟨action, builtIn, action.voiced_does voice⟩

theorem Step.banner_builtIn : Step.banner.BuiltIn := .inl rfl

/-- A call that neither begins nor ends a run nor takes a picture. -/
def Call.Ordinary : Call → Prop
  | .start _ | .capture _ | .finish => False
  | _ => True

namespace Program

/-- Programs that report nothing. -/
inductive Quiet : Program → Prop where
  | done : Quiet .done
  | fail (error : StepError) : Quiet (.fail error)
  | log {level : LogLevel} {text : String} {next : Program} :
      Quiet next → Quiet (.log level text next)
  | ask {request : Call} {next : request.Reply → Program} :
      request.Ordinary → (∀ reply, Quiet (next reply)) → Quiet (.ask request next)

/-- What programs may do once they have reported. -/
inductive Closing : Program → Prop where
  | done : Closing .done
  | log {level : LogLevel} {text : String} {next : Program} :
      Closing next → Closing (.log level text next)
  | note {name : String} {value : Option String} {next : Program} :
      Closing next → Closing (.note name value next)

/-- Programs that report once, at their end, unless they fail. -/
inductive Telling : Program → Prop where
  | signal {passed : Bool} {message : String} {next : Program} :
      Closing next → Telling (.signal passed message next)
  | ask {request : Call} {next : request.Reply → Program} :
      request.Ordinary → (∀ reply, Telling (next reply)) → Telling (.ask request next)

theorem Quiet.tell {request : Call} (ordinary : request.Ordinary) : Quiet (.tell request) :=
  .ask ordinary fun _ => .done

theorem Quiet.leaves {Allowed : Occurrence → Prop} {context : Context} {program : Program}
    (speaks : ∀ event, Allowed (.recorded event))
    (asks : ∀ call : Call, call.Ordinary → ∀ ms reply, Allowed (.answered call ms reply))
    (quiet : program.Quiet) : program.Leaves Allowed context := by
  induction quiet with
  | done | fail => trivial
  | log _ inductionHypothesis => exact ⟨speaks _, inductionHypothesis⟩
  | ask ordinary _ inductionHypothesis => exact .ask (asks _ ordinary) inductionHypothesis

end Program

/-- How a built-in action comes by its outcome: if it waits, its work leaves the report to others;
if it does not, its work reports, but for an address that is opened. -/
theorem Action.BuiltIn.work {action : Action} (builtIn : action.BuiltIn) :
    (∃ condition, action.strategy = .wait condition ∧
        ∀ callback, action.callback = some callback → ∀ cue, (callback cue).Quiet) ∨
      action.strategy = .immediate ∧
        ((∃ message url, action = .goTo message url) ∨
          ∃ callback, action.callback = some callback ∧ ∀ cue, (callback cue).Telling) := by
  cases builtIn with
  | am | reached | find | findTheVisible | see | canSee =>
      exact .inl ⟨_, rfl, by rintro callback ⟨⟩⟩
  | fill | click | clickTheLabel =>
      refine .inl ⟨_, rfl, ?_⟩
      rintro callback ⟨⟩ cue
      exact .tell trivial
  | goTo message url => exact .inr ⟨rfl, .inl ⟨message, url, rfl⟩⟩
  | shouldNotSee | cannotFindThe =>
      refine .inr ⟨rfl, .inr ⟨_, rfl, ?_⟩⟩
      intro cue
      refine .ask trivial ?_
      intro found
      cases found with
      | false => exact .signal .done
      | true => exact .signal (.log .done)
  | seeTheValueOf message selector expected =>
      refine .inl ⟨_, rfl, ?_⟩
      rintro callback ⟨⟩ cue
      have compares : (compareText selector expected).Quiet := by
        refine .ask trivial ?_
        intro found
        split
        · exact .done
        · exact .fail _
      split
      · exact compares
      · exact .log compares
  | noteDown message selector property =>
      refine .inr ⟨rfl, .inr ⟨_, rfl, ?_⟩⟩
      intro cue
      refine .ask trivial ?_
      intro found
      cases found with
      | false => exact .signal (.log .done)
      | true =>
          refine .ask trivial ?_
          intro value
          exact .signal (.log (.note .done))

/-- The work of a built-in action asks and speaks; what it notes down is what it is there for. -/
theorem Action.BuiltIn.leaves {Allowed : Occurrence → Prop} {context : Context} {action : Action}
    (builtIn : action.BuiltIn) (speaks : ∀ event, Allowed (.recorded event))
    (asks : ∀ call : Call, call.Ordinary → ∀ ms reply, Allowed (.answered call ms reply))
    (notes : ∀ message selector property, action = .noteDown message selector property →
      ∀ value, Allowed (.noted message value))
    {callback : Callback} (work : action.callback = some callback) (cue : Cue) :
    (callback cue).Leaves Allowed context := by
  rcases builtIn.work with ⟨_, -, quiet⟩ | ⟨immediate, -⟩
  · exact (quiet callback work cue).leaves speaks asks
  · cases builtIn with
    | goTo =>
        cases work
        exact .ask (asks _ trivial) fun _ => trivial
    | shouldNotSee | cannotFindThe =>
        cases work
        refine .ask (asks _ trivial) ?_
        intro found
        cases found with
        | false => exact ⟨speaks _, trivial⟩
        | true => exact ⟨speaks _, speaks _, trivial⟩
    | noteDown message selector property =>
        cases work
        refine .ask (asks _ trivial) ?_
        intro found
        cases found with
        | false => exact ⟨speaks _, speaks _, trivial⟩
        | true =>
            refine .ask (asks _ trivial) ?_
            intro value
            exact ⟨speaks _, speaks _, notes message selector property rfl value, trivial⟩
    | _ => cases immediate

namespace Program

variable {context : Context} {reported : Option Outcome} {history : List Occurrence}
  {performance : Performance}

theorem performs_ask {request : Call} {next : request.Reply → Program}
    (performs : (ask request next).Performs context reported history performance) :
    ∃ ms,
      (∃ reply rest, history = .answered request ms (.ok reply) :: rest ∧
        (next reply).Performs context reported rest performance) ∨
      ∃ error, history = [.answered request ms (.error error)] ∧
        performance = { result := .error (.engine error), reported } := by
  cases performs with
  | @call _ _ ms reply _ rest _ performs =>
      refine ⟨ms, ?_⟩
      cases reply with
      | ok reply => exact .inl ⟨reply, rest, rfl, performs⟩
      | error error =>
          cases performs
          exact .inr ⟨error, rfl, rfl⟩

/-- A quiet program leaves open how the step comes out. -/
theorem Quiet.performs {program : Program} (quiet : program.Quiet)
    (performs : program.Performs context reported history performance) :
    history.filterMap Occurrence.signal? = [] ∧ performance.reported = reported := by
  induction quiet generalizing history with
  | done =>
      cases performs
      simp
  | fail error =>
      cases performs
      simp
  | log _ inductionHypothesis =>
      cases performs with
      | log performs =>
          simpa [Event.signal?] using inductionHypothesis performs
  | ask _ _ inductionHypothesis =>
      obtain ⟨ms, ⟨reply, rest, rfl, goesOn⟩ | ⟨error, rfl, rfl⟩⟩ := performs_ask performs
      · simpa using inductionHypothesis reply goesOn
      · simp

theorem Closing.performs {program : Program} (closing : program.Closing)
    (performs : program.Performs context reported history performance) :
    history.filterMap Occurrence.signal? = [] ∧
      performance = { result := .ok (), reported } := by
  induction closing generalizing history with
  | done =>
      cases performs
      simp
  | log _ inductionHypothesis =>
      cases performs with
      | log performs =>
          simpa [Event.signal?] using inductionHypothesis performs
  | note _ inductionHypothesis =>
      cases performs with
      | note performs =>
          simpa using inductionHypothesis performs

theorem Telling.performs {program : Program} (telling : program.Telling)
    (performs : program.Performs context reported history performance) :
    (∃ error, performance = { result := .error error, reported }) ∧
        history.filterMap Occurrence.signal? = [] ∨
      ∃ outcome, performance = { result := .ok (), reported := some outcome } ∧
        history.filterMap Occurrence.signal? = [(outcome, context.scenario, context.index)] := by
  induction telling generalizing history with
  | @signal passed message next closing =>
      cases performs with
      | signal performs =>
          obtain ⟨unsigned, rfl⟩ := closing.performs performs
          refine .inr ⟨_, rfl, ?_⟩
          rw [List.filterMap_cons, Occurrence.signal?_recorded, unsigned]
          cases passed <;> rfl
  | ask _ _ inductionHypothesis =>
      obtain ⟨ms, ⟨reply, rest, rfl, goesOn⟩ | ⟨error, rfl, rfl⟩⟩ := performs_ask performs
      · simpa [List.filterMap_cons] using inductionHypothesis reply goesOn
      · exact .inl ⟨⟨_, rfl⟩, by simp⟩

end Program

namespace Step

variable {config : Config} {context : Context} {step : Step} {action : Action}
  {history : List Occurrence} {performance : Performance}

theorem Does.works_of_quiet (does : step.Does action)
    (quiet : ∀ callback, action.callback = some callback → ∀ cue, (callback cue).Quiet)
    (works : step.Works config context history performance) :
    history.filterMap Occurrence.signal? = [] ∧ performance.reported = none := by
  unfold Works at works
  rw [does.callback] at works
  cases work : action.callback with
  | none =>
      rw [work] at works
      obtain ⟨rfl, rfl⟩ := works
      simp
  | some callback =>
      rw [work] at works
      exact (quiet callback work _).performs works

/-- Work that is nothing but one call. -/
theorem Does.works_of_tell {request : Cue → Call} (does : step.Does action)
    (work : action.callback = some fun cue => .tell (request cue))
    (works : step.Works config context history performance) :
    let asked := request { context, message := step.message, config }
    ∃ ms, (∃ reply, history = [.answered asked ms (.ok reply)] ∧
        performance = { result := .ok (), reported := none }) ∨
      ∃ error, history = [.answered asked ms (.error error)] ∧
        performance = { result := .error (.engine error), reported := none } := by
  unfold Works at works
  rw [does.callback, work] at works
  obtain ⟨ms, ⟨reply, rest, rfl, ends⟩ | failure⟩ := Program.performs_ask works
  · cases ends
    exact ⟨ms, .inl ⟨reply, rfl, rfl⟩⟩
  · exact ⟨ms, .inr failure⟩

theorem Does.works_of_goTo {message url : String} (does : step.Does (.goTo message url))
    (works : step.Works config context history performance) :
    ∃ ms, history = [.answered (.visit url) ms (.ok ())] ∧
        performance = { result := .ok (), reported := none } ∨
      ∃ error, history = [.answered (.visit url) ms (.error error)] ∧
        performance = { result := .error (.engine error), reported := none } := by
  obtain ⟨ms, ⟨reply, opened⟩ | failure⟩ := does.works_of_tell rfl works
  · exact ⟨ms, .inl opened⟩
  · exact ⟨ms, .inr failure⟩

/-- A step made of a built-in action calls for nothing out of the ordinary. -/
theorem Does.within_ordinary (does : step.Does action) (builtIn : action.BuiltIn) :
    step.Within Call.Ordinary where
  probe condition _ := by cases condition <;> trivial
  work callback held cue :=
    (Program.within_iff_leaves cue.context).mpr
      (builtIn.leaves (by simp) (by simp) (by simp) (does.callback.symm.trans held) cue)

end Step

end Rehearsal

import Rehearsal.Proofs.Step.Leaving

/-!
The calls that a step may make.

What a program calls for depends on the answers that it gets.  It keeps within a class of calls if
it makes no others, whatever it is answered; then no run of its step makes others either.
-/

namespace Rehearsal

variable {allows : Call → Prop}

namespace Program

/-- The program makes none but allowed calls. -/
def Within (allows : Call → Prop) : Program → Prop
  | .done | .fail _ => True
  | .signal _ _ next | .log _ _ next | .sleep _ next | .note _ _ next => next.Within allows
  | .call request next => allows request ∧ ∀ reply, (next reply).Within allows
  | .signalled next => ∀ reported, (next reported).Within allows

@[simp]
theorem within_ask_iff {request : Call} {next : request.Reply → Program} :
    (ask request next).Within allows ↔
      allows request ∧ ∀ reply, (next reply).Within allows := by
  constructor
  · rintro ⟨allowed, others⟩
    exact ⟨allowed, fun reply => others (.ok reply)⟩
  · rintro ⟨allowed, others⟩
    refine ⟨allowed, ?_⟩
    intro reply
    cases reply with
    | ok reply => exact others reply
    | error error => trivial

theorem Within.ask {request : Call} {next : request.Reply → Program} (allowed : allows request)
    (others : ∀ reply, (next reply).Within allows) : (ask request next).Within allows :=
  within_ask_iff.mpr ⟨allowed, others⟩

@[simp]
theorem within_tell_iff {request : Call} : (tell request).Within allows ↔ allows request := by
  rw [tell, within_ask_iff, and_iff_left_iff_imp]
  intro _ _
  trivial

theorem within_true (program : Program) : program.Within fun _ => True := by
  induction program with
  | done | fail => trivial
  | signal _ _ _ inductionHypothesis | log _ _ _ inductionHypothesis
  | sleep _ _ inductionHypothesis | note _ _ _ inductionHypothesis => exact inductionHypothesis
  | call _ _ inductionHypothesis => exact ⟨trivial, inductionHypothesis⟩
  | signalled _ inductionHypothesis => exact inductionHypothesis

theorem Within.imp {more : Call → Prop} (imp : ∀ call, allows call → more call)
    {program : Program} (within : program.Within allows) : program.Within more := by
  induction program with
  | done | fail => trivial
  | signal _ _ _ inductionHypothesis | log _ _ _ inductionHypothesis
  | sleep _ _ inductionHypothesis | note _ _ _ inductionHypothesis =>
      exact inductionHypothesis within
  | call request _ inductionHypothesis =>
      exact ⟨imp request within.1, fun reply => inductionHypothesis reply (within.2 reply)⟩
  | signalled _ inductionHypothesis =>
      exact fun reported => inductionHypothesis reported (within reported)

/-- To make none but allowed calls is to leave none but allowed calls behind. -/
theorem within_iff_leaves (context : Context) {program : Program} :
    program.Within allows ↔
      program.Leaves (fun occurrence => ∀ call, occurrence.call? = some call → allows call)
        context := by
  induction program with
  | done | fail => exact Iff.rfl
  | signal _ _ _ inductionHypothesis | log _ _ _ inductionHypothesis
  | sleep _ _ inductionHypothesis | note _ _ _ inductionHypothesis =>
      simpa [Within, Leaves] using inductionHypothesis
  | call request next inductionHypothesis =>
      simp only [Within, Leaves, inductionHypothesis, Occurrence.call?_answered,
        Option.some.injEq, forall_eq']
      constructor
      · rintro ⟨allowed, others⟩ reply
        exact ⟨fun _ => allowed, others reply⟩
      · intro leaves
        exact ⟨(leaves (.error default)).1 0, fun reply => (leaves reply).2⟩
  | signalled _ inductionHypothesis => simp only [Within, Leaves, inductionHypothesis]

end Program

/-- The step makes none but allowed calls until its picture is taken. -/
structure Step.Within (allows : Call → Prop) (step : Step) : Prop where
  probe : ∀ condition, step.strategy = .wait condition → allows condition.probe
  work : ∀ callback, step.callback = some callback → ∀ cue, (callback cue).Within allows

theorem Evidence.Pictured.calls {evidence : Evidence} {picture : List Occurrence}
    (pictured : evidence.Pictured picture) :
    picture.filterMap Occurrence.call? = [.capture evidence.path] := by
  cases pictured <;> rfl

namespace Step

variable {config : Config} {context : Context} {step : Step} {history : List Occurrence}

theorem within_true (step : Step) : step.Within fun _ => True :=
  ⟨fun _ _ => trivial, fun callback _ cue => (callback cue).within_true⟩

theorem Within.imp {more : Call → Prop} (imp : ∀ call, allows call → more call)
    (within : step.Within allows) : step.Within more where
  probe condition waits := imp _ (within.probe condition waits)
  work callback held cue := (within.work callback held cue).imp imp

theorem calls_lastWords (step : Step) :
    step.lastWords.filterMap Occurrence.call? = [] := by
  unfold lastWords
  split <;> rfl

theorem Within.leaves (within : step.Within allows) (config : Config) (context : Context) :
    step.Leaves (fun occurrence => ∀ call, occurrence.call? = some call → allows call) config
      context where
  tells event _ := by simp
  work callback held := (Program.within_iff_leaves context).mp (within.work callback held _)

theorem Within.waits (within : step.Within allows) (config : Config) :
    ∀ condition waiting ending elapsed, step.strategy = .wait condition →
      condition.Awaits config.pollIntervalMs waiting ending →
      ∀ occurrence ∈ waiting ++ World.waitRemark condition elapsed ending,
        ∀ call, occurrence.call? = some call → allows call := by
  intro condition waiting ending elapsed waits awaits
  have allowed := within.probe condition waits
  rw [List.forall_mem_append]
  refine ⟨awaits.forall_mem (by simpa using allowed) (by simpa using allowed) (by simp), ?_⟩
  cases ending <;> simp [World.waitRemark]

theorem Within.goes {outcome : Outcome} (within : step.Within allows)
    (other : step.strategy ≠ .banner) (goes : step.Goes config context history outcome) :
    ∀ call ∈ history.filterMap Occurrence.call?, allows call :=
  List.forall_mem_filterMap.mpr
    ((within.leaves config context).goes (within.waits config) other goes)

theorem Within.unrolls {outcome : Option Outcome} (within : step.Within allows)
    (pictures : ∀ path, allows (.capture path))
    (unrolls : step.Unrolls config context history outcome) :
    ∀ call ∈ history.filterMap Occurrence.call?, allows call := by
  have taken : ∀ picture, (context.evidence config step.message).Pictured picture →
      ∀ occurrence ∈ picture, ∀ call, occurrence.call? = some call → allows call := by
    intro picture pictured
    rw [← List.forall_mem_filterMap, pictured.calls]
    exact List.forall_mem_singleton.mpr (pictures _)
  obtain ⟨behind, rfl, allowed⟩ :=
    (within.leaves config context).unrolls (within.waits config) taken unrolls
  exact List.forall_mem_filterMap.mpr (List.forall_mem_cons.mpr ⟨by simp, allowed⟩)

end Step

end Rehearsal

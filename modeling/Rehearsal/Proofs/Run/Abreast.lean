import Rehearsal.Proofs.Run.Running
import Rehearsal.Proofs.Step.Within

/-!
Two runs side by side.

Nothing in a run depends on the engine but for the answers to its calls.  Runs under engines that
answer alike go through the same history, and where they answer in two ways to being asked for a
picture, the histories part over that picture and come together again behind it.
-/

namespace Rehearsal

variable {σ τ : Type}

/-- The engines go alike over all allowed calls, and to some of these they give the same answers. -/
structure Engine.Mirrors (allows tells : Call → Prop) (alike : σ → τ → Prop) (engine : Engine σ)
    (other : Engine τ) : Prop where
  accept : ∀ call, allows call → ∀ state state', alike state state' →
    alike (engine.accept call state) (other.accept call state')
  delay : ∀ call, allows call → ∀ state state', alike state state' →
    engine.delay call state = other.delay call state'
  silent : ∀ call, allows call → ∀ state state', alike state state' →
    engine.silent call state = other.silent call state'
  answer : ∀ call, allows call → ∀ state state', alike state state' →
    alike (engine.answer call state).2 (other.answer call state').2
  reply : ∀ call, tells call → ∀ state state', alike state state' →
    (engine.answer call state).1 = (other.answer call state').1
  allowed : ∀ call, tells call → allows call

namespace World

/-- The worlds are at the same point of two runs that differ at most in what they have recorded. -/
structure Abreast (alike : σ → τ → Prop) (world : World σ) (world' : World τ) : Prop where
  state : alike world.state world'.state
  clock : world.clock = world'.clock
  calls : world.calls = world'.calls
  notebook : world.notebook = world'.notebook

/-- The same has come of both worlds, through the same history. -/
inductive Together (engine : Engine σ) (other : Engine τ) (alike : σ → τ → Prop) {α : Type}
    (world : World σ) (world' : World τ) : α × World σ → α × World τ → Prop where
  | both {history : List Occurrence} {after : World σ} {after' : World τ} (value : α) :
      world.Unfolds engine history after → world'.Unfolds other history after' →
      after.Abreast alike after' →
      Together engine other alike world world' (value, after) (value, after')

variable {engine : Engine σ} {other : Engine τ} {alike : σ → τ → Prop} {allows tells : Call → Prop}
  {world middle : World σ} {world' middle' : World τ} {history : List Occurrence}

section

variable {α : Type} {ending : α × World σ} {ending' : α × World τ}

theorem Together.split (together : Together engine other alike world world' ending ending') :
    ∃ value history after after', ending = (value, after) ∧ ending' = (value, after') ∧
      world.Unfolds engine history after ∧ world'.Unfolds other history after' ∧
      after.Abreast alike after' := by
  cases together with
  | both value front front' abreast => exact ⟨value, _, _, _, rfl, rfl, front, front', abreast⟩

theorem Together.behind (front : world.Unfolds engine history middle)
    (front' : world'.Unfolds other history middle')
    (together : Together engine other alike middle middle' ending ending') :
    Together engine other alike world world' ending ending' := by
  cases together with
  | both value back back' abreast =>
      exact .both value (front.append back) (front'.append back') abreast

end

/-- What is written down is of no account. -/
theorem Abreast.write (abreast : world.Abreast alike world') (f g : Ledger → Ledger) :
    (world.write f).Abreast alike (world'.write g) :=
  ⟨abreast.state, abreast.clock, abreast.calls, abreast.notebook⟩

theorem Abreast.fault (abreast : world.Abreast alike world') (context : Context)
    (message reason : String) :
    (world.fault context message reason).Abreast alike (world'.fault context message reason) :=
  (abreast.write _ _).write _ _

theorem Abreast.later (abreast : world.Abreast alike world') (instant : Nat) :
    Abreast alike { world with clock := instant } { world' with clock := instant } :=
  ⟨abreast.state, rfl, abreast.calls, abreast.notebook⟩

section

variable (mirrors : engine.Mirrors allows tells alike other) {request : Call}

include mirrors

theorem Abreast.begin (allowed : allows request) (abreast : world.Abreast alike world') :
    (world.begin engine request).Abreast alike (world'.begin other request) := by
  refine ⟨mirrors.accept request allowed _ _ abreast.state, abreast.clock, ?_, abreast.notebook⟩
  simp only [World.begin, abreast.clock, abreast.calls]

theorem Abreast.delay (allowed : allows request) (abreast : world.Abreast alike world') :
    engine.delay request (engine.accept request world.state) =
      other.delay request (other.accept request world'.state) :=
  mirrors.delay request allowed _ _ (abreast.begin mirrors allowed).state

theorem Abreast.reply (told : tells request) (abreast : world.Abreast alike world') :
    (world.call engine request).1 = (world'.call other request).1 :=
  mirrors.reply request told _ _ (abreast.begin mirrors (mirrors.allowed request told)).state

/-- A call leaves the worlds abreast however it is answered. -/
theorem Abreast.called (allowed : allows request) (abreast : world.Abreast alike world') :
    (world.call engine request).2.Abreast alike (world'.call other request).2 := by
  have asked := abreast.begin mirrors allowed
  refine ⟨mirrors.answer request allowed _ _ asked.state, ?_, asked.calls, asked.notebook⟩
  have delay := mirrors.delay request allowed _ _ asked.state
  simp only [World.call, complete, asked.clock, delay]

theorem Abreast.call (told : tells request) (abreast : world.Abreast alike world') :
    Together engine other alike world world' (world.call engine request)
      (world'.call other request) := by
  have allowed := mirrors.allowed request told
  have reply := abreast.reply mirrors told
  have back := call_unfolds other request world'
  rw [← abreast.delay mirrors allowed, ← reply] at back
  have ending : world'.call other request =
      ((world.call engine request).1, (world'.call other request).2) := Prod.ext reply.symm rfl
  rw [ending]
  exact .both _ (call_unfolds engine request world) back (abreast.called mirrors allowed)

theorem Abreast.poll {condition : Condition} (told : tells condition.probe)
    (interval deadline fuel : Nat) (inTime : world.clock ≤ deadline)
    (abreast : world.Abreast alike world') :
    Together engine other alike world world'
      (world.poll engine condition interval deadline fuel)
      (world'.poll other condition interval deadline fuel) := by
  have elapsed : ∀ {world : World σ} {world' : World τ}, world.clock ≤ deadline →
      world.Abreast alike world' →
      Together engine other alike world world' (WaitEnd.elapsed, { world with clock := deadline })
        (WaitEnd.elapsed, { world' with clock := deadline }) := by
    intro world world' inTime abreast
    have rested' := undergoes_rested_until other (abreast.clock ▸ inTime)
    rw [← abreast.clock] at rested'
    exact .both _ (undergoes_rested_until engine inTime).unfolds rested'.unfolds
      (abreast.later deadline)
  induction fuel generalizing world world' with
  | zero => exact elapsed inTime abreast
  | succ fuel inductionHypothesis =>
      have allowed := mirrors.allowed condition.probe told
      have asked := abreast.begin mirrors allowed
      have silent := mirrors.silent condition.probe allowed _ _ asked.state
      have delay := mirrors.delay condition.probe allowed _ _ asked.state
      obtain ⟨reply, history, after, after', ended, ended', front, front', later⟩ :=
        (abreast.call mirrors told).split
      have ticked : (world.call engine condition.probe).2.clock =
          world.clock + engine.delay condition.probe (world.begin engine condition.probe).state :=
        rfl
      rw [ended] at ticked
      unfold World.call at ended ended'
      -- Whatever is decided by the answers so far and the clock is decided alike.
      simp only [World.poll, ← silent, ← delay, ← asked.clock, ended, ended']
      split
      next late =>
        rw [Bool.or_eq_true, decide_eq_true_eq] at late
        have dropped := undergoes_dropped_until engine condition.probe inTime late
        have dropped' := undergoes_dropped_until other condition.probe (abreast.clock ▸ inTime)
          (silent ▸ delay ▸ abreast.clock ▸ late)
        rw [← abreast.clock] at dropped'
        exact .both _ dropped.unfolds dropped'.unfolds (asked.later deadline)
      next timely =>
        rw [Bool.or_eq_true, decide_eq_true_eq, not_or, Nat.not_lt] at timely
        refine .behind front front' ?_
        cases reply with
        | error error => exact .both _ (.done after) (.done after') later
        | ok found =>
            simp only [← later.clock]
            split
            next => exact .both _ (.done after) (.done after') later
            next =>
              split
              next => exact elapsed (ticked ▸ timely.2) later
              next early =>
                have rested' : after'.Undergoes other (.rested interval)
                    { after' with clock := after'.clock + interval } := .rested after' interval
                rw [← later.clock] at rested'
                exact .behind (Undergoes.rested after interval).unfolds rested'.unfolds
                  (inductionHypothesis (Nat.le_of_not_lt early) (later.later _))

theorem Abreast.await {condition : Condition} (told : tells condition.probe) (config : Config)
    (abreast : world.Abreast alike world') :
    Together engine other alike world world' (world.await engine config condition)
      (world'.await other config condition) := by
  obtain ⟨ending, history, after, after', ended, ended', front, front', later⟩ :=
    (abreast.poll mirrors told config.pollIntervalMs (world.clock + condition.bound config)
      (condition.bound config + 1) (Nat.le_add_right _ _)).split
  simp only [World.await, ← abreast.clock, ended, ended']
  refine .behind front front' ?_
  cases ending with
  | met =>
      simp only [← later.clock]
      exact .both _ (Undergoes.remarked after _).unfolds (Undergoes.remarked after' _).unfolds
        (later.write _ _)
  | failed | elapsed => exact .both _ (.done after) (.done after') later

theorem Abreast.carryOut (context : Context) {program : Program} (within : program.Within tells)
    (reported : Option Outcome) (abreast : world.Abreast alike world') :
    Together engine other alike world world' (program.perform engine context reported world)
      (program.perform other context reported world') := by
  induction program generalizing reported world world' with
  | done | fail => exact .both _ (.done world) (.done world') abreast
  | signal passed message _ inductionHypothesis =>
      exact .behind (undergoes_signal engine context passed message world).unfolds
        (undergoes_signal other context passed message world').unfolds
        (inductionHypothesis within _ (abreast.write _ _))
  | log level text _ inductionHypothesis =>
      exact .behind (undergoes_log engine level text world).unfolds
        (undergoes_log other level text world').unfolds
        (inductionHypothesis within reported (abreast.write _ _))
  | call request next inductionHypothesis =>
      obtain ⟨reply, history, after, after', ended, ended', front, front', later⟩ :=
        (abreast.call mirrors within.1).split
      unfold Program.perform
      rw [ended, ended']
      exact .behind front front' (inductionHypothesis reply (within.2 reply) reported later)
  | sleep ms next inductionHypothesis =>
      have rested' : world'.Undergoes other (.rested ms)
          { world' with clock := world'.clock + ms } := .rested world' ms
      unfold Program.perform
      rw [← abreast.clock] at rested' ⊢
      exact .behind (Undergoes.rested world ms).unfolds rested'.unfolds
        (inductionHypothesis within reported (abreast.later _))
  | note name value next inductionHypothesis =>
      have noted : Abreast alike
          { world with notebook := world.notebook.record name value }
          { world' with notebook := world'.notebook.record name value } :=
        ⟨abreast.state, abreast.clock, abreast.calls, by rw [abreast.notebook]⟩
      exact .behind (Undergoes.noted world name value).unfolds
        (Undergoes.noted world' name value).unfolds (inductionHypothesis within reported noted)
  | signalled next inductionHypothesis =>
      exact inductionHypothesis reported (within reported) reported abreast

variable {step : Step} (within : step.Within tells)

include within

theorem Abreast.perform (config : Config) (context : Context)
    (abreast : world.Abreast alike world') :
    Together engine other alike world world' (world.perform engine config context step)
      (world'.perform other config context step) := by
  unfold World.perform
  split
  next callback held => exact abreast.carryOut mirrors context (within.work callback held _) none
  next => exact .both _ (.done world) (.done world') abreast

theorem Abreast.proceed (config : Config) (context : Context)
    (abreast : world.Abreast alike world') :
    Together engine other alike world world' (world.proceed engine config context step)
      (world'.proceed other config context step) := by
  obtain ⟨⟨result, reported⟩, history, after, after', ended, ended', front, front', later⟩ :=
    (abreast.perform mirrors within config context).split
  rw [World.proceed, World.proceed, ended, ended']
  refine .behind front front' ?_
  cases result with
  | error error =>
      exact .both _ (fault_unfolds engine context _ _ after)
        (fault_unfolds other context _ _ after') (later.fault context _ _)
  | ok done =>
      cases reported with
      | none =>
          exact .both _ (undergoes_signal engine context true _ after).unfolds
            (undergoes_signal other context true _ after').unfolds (later.write _ _)
      | some outcome => exact .both _ (.done after) (.done after') later

theorem Abreast.act (config : Config) (context : Context) (abreast : world.Abreast alike world') :
    Together engine other alike world world' (world.act engine config context step)
      (world'.act other config context step) := by
  obtain ⟨⟨result, reported⟩, history, after, after', ended, ended', front, front', later⟩ :=
    (abreast.perform mirrors within config context).split
  rw [World.act, World.act, ended, ended']
  refine .behind front front' ?_
  cases result with
  | error error =>
      exact .both _ (fault_unfolds engine context _ _ after)
        (fault_unfolds other context _ _ after') (later.fault context _ _)
  | ok done => exact .both _ (.done after) (.done after') later

omit mirrors within in
/-- The last words of a step are the same in both worlds. -/
theorem Together.informed {condition : Condition} (waits : step.strategy = .wait condition)
    {ending : Outcome × World σ} {ending' : Outcome × World τ}
    (together : Together engine other alike world world' ending ending') :
    Together engine other alike world world'
      (ending.1, step.info.elim ending.2 fun info => ending.2.log .info info)
      (ending'.1, step.info.elim ending'.2 fun info => ending'.2.log .info info) := by
  cases together with
  | both value front front' abreast =>
      refine .both value (lastWords_unfolds waits front) (lastWords_unfolds waits front') ?_
      cases step.info with
      | none => exact abreast
      | some info => exact abreast.write _ _

theorem Abreast.waitAndProceed (config : Config) (context : Context) {condition : Condition}
    (waits : step.strategy = .wait condition) (abreast : world.Abreast alike world') :
    Together engine other alike world world'
      (world.waitAndProceed engine config context step condition)
      (world'.waitAndProceed other config context step condition) := by
  obtain ⟨ending, history, after, after', ended, ended', front, front', later⟩ :=
    (abreast.await mirrors (within.probe condition waits) config).split
  refine .behind front front' ?_
  cases ending with
  | met =>
      rw [waitAndProceed_of_met ended, waitAndProceed_of_met ended']
      exact (later.proceed mirrors within config context).informed waits
  | failed error =>
      rw [waitAndProceed_of_failed ended, waitAndProceed_of_failed ended']
      exact Together.informed waits (.both _ (fault_unfolds engine context _ _ after)
        (fault_unfolds other context _ _ after') (later.fault context _ _))
  | elapsed =>
      rw [waitAndProceed_of_elapsed ended, waitAndProceed_of_elapsed ended']
      exact Together.informed waits (.both _ (timeout_unfolds engine context _ after)
        (timeout_unfolds other context _ after') (later.write _ _))

end

/-- Only the ledger shows whether a picture has been taken. -/
theorem capture_eq (engine : Engine σ) (config : Config) (context : Context) (message : String)
    (world : World σ) :
    ∃ write, world.capture engine config context message =
      (world.call engine (.capture (context.evidence config message).path)).2.write write := by
  simp only [capture, Context.evidence]
  split
  next called => exact ⟨_, by rw [called]⟩
  next error after called =>
    have wrote : ∀ line text, ((after.write (Ledger.remark line)).log .warning text) =
        after.write fun ledger => (ledger.remark line).log .warning text := fun _ _ => rfl
    exact ⟨_, by rw [called, wrote]⟩

end World

/-- What is left behind by a step in two runs: the same up to its picture, and then the picture as
the engine of either run has answered to being asked for it. -/
inductive Scheduled.Beside (tells : Call → Prop) (config : Config) (item : Scheduled) :
    List Occurrence → List Occurrence → Prop where
  | banner :
      item.step.strategy = .banner →
      Beside tells config item
        (.entered item.context.scenario item.context.index :: bannerHistory item.context.scenario)
        (.entered item.context.scenario item.context.index :: bannerHistory item.context.scenario)
  | step {before : List Occurrence} {ms : Nat} {reply reply' : Except EngineError Unit} :
      item.step.strategy ≠ .banner →
      (tells (.capture (item.context.evidence config item.step.message).path) → reply = reply') →
      Beside tells config item
        (before ++ (item.context.evidence config item.step.message).picture ms reply)
        (before ++ (item.context.evidence config item.step.message).picture ms reply')

namespace World

/-- The outcomes of steps that are run one behind the other. -/
def outcomes (engine : Engine σ) (config : Config) :
    List Scheduled → World σ → List (Option Outcome)
  | [], _ => []
  | item :: rest, world =>
      (world.execute engine config item.context item.step).1 ::
        outcomes engine config rest (world.execute engine config item.context item.step).2

/-- A step has been run to the same outcome in both worlds, through histories that part at most
over its picture. -/
inductive Parted (engine : Engine σ) (other : Engine τ) (alike : σ → τ → Prop)
    (tells : Call → Prop) (config : Config) (item : Scheduled) (world : World σ)
    (world' : World τ) : Option Outcome × World σ → Option Outcome × World τ → Prop where
  | both {history history' : List Occurrence} {after : World σ} {after' : World τ}
      (outcome : Option Outcome) :
      item.Beside tells config history history' →
      world.Unfolds engine history after → world'.Unfolds other history' after' →
      after.Abreast alike after' →
      Parted engine other alike tells config item world world' (outcome, after) (outcome, after')

variable {engine : Engine σ} {other : Engine τ} {alike : σ → τ → Prop} {allows tells : Call → Prop}
  {world : World σ} {world' : World τ} (mirrors : engine.Mirrors allows tells alike other)
  (pictures : ∀ path, allows (.capture path)) (config : Config)

include mirrors pictures

theorem Abreast.capture (context : Context) (message : String)
    (abreast : world.Abreast alike world') :
    ∃ ms reply reply',
      (tells (.capture (context.evidence config message).path) → reply = reply') ∧
      world.Unfolds engine ((context.evidence config message).picture ms reply)
        (world.capture engine config context message) ∧
      world'.Unfolds other ((context.evidence config message).picture ms reply')
        (world'.capture other config context message) ∧
      (world.capture engine config context message).Abreast alike
        (world'.capture other config context message) := by
  have allowed := pictures (context.evidence config message).path
  have taken' := capture_pictures other config context message world'
  dsimp only at taken'
  rw [← abreast.delay mirrors allowed] at taken'
  obtain ⟨write, wrote⟩ := capture_eq engine config context message world
  obtain ⟨write', wrote'⟩ := capture_eq other config context message world'
  refine ⟨_, _, _, fun told => abreast.reply mirrors told,
    capture_pictures engine config context message world, taken', ?_⟩
  rw [wrote, wrote']
  exact (abreast.called mirrors allowed).write write write'

/-- Behind a step that has come to its outcome its picture is taken. -/
theorem Together.captured {item : Scheduled} (speaks : item.step.strategy ≠ .banner)
    {ending : Outcome × World σ} {ending' : Outcome × World τ}
    (together : Together engine other alike world world' ending ending') :
    Parted engine other alike tells config item world world'
      (some ending.1, ending.2.capture engine config item.context item.step.message)
      (some ending'.1, ending'.2.capture other config item.context item.step.message) := by
  cases together with
  | both value front front' abreast =>
      obtain ⟨ms, reply, reply', told, taken, taken', later⟩ :=
        abreast.capture mirrors pictures config item.context item.step.message
      exact .both _ (.step speaks told) (front.append taken) (front'.append taken') later

/-- A step is run to the same outcome, and leaves the worlds abreast. -/
theorem Abreast.execute {item : Scheduled}
    (within : item.step.strategy ≠ .banner → item.step.Within tells)
    (abreast : world.Abreast alike world') :
    Parted engine other alike tells config item world world'
      (world.execute engine config item.context item.step)
      (world'.execute other config item.context item.step) := by
  have entered := abreast.write (Ledger.enter item.context.scenario item.context.index)
    (Ledger.enter item.context.scenario item.context.index)
  have enters : ∀ {σ : Type} (engine : Engine σ) (world : World σ),
      world.Unfolds engine [.entered item.context.scenario item.context.index]
        (world.write (Ledger.enter item.context.scenario item.context.index)) :=
    fun engine world => (Undergoes.entered world _ _).unfolds
  unfold World.execute
  cases strategy : item.step.strategy with
  | banner =>
      exact .both none (.banner strategy)
        ((enters engine world).append (banner_unfolds engine item.context.scenario _))
        ((enters other world').append (banner_unfolds other item.context.scenario _))
        (entered.write _ _)
  | wait condition =>
      have speaks : item.step.strategy ≠ .banner := by simp [strategy]
      have gone := entered.waitAndProceed mirrors (within speaks) config item.context strategy
      exact (gone.behind (enters engine world) (enters other world')).captured mirrors pictures
        config speaks
  | immediate =>
      have speaks : item.step.strategy ≠ .banner := by simp [strategy]
      have gone := entered.act mirrors (within speaks) config item.context
      exact (gone.behind (enters engine world) (enters other world')).captured mirrors pictures
        config speaks

/-- Steps that are run behind one another have the same outcomes, and leave the worlds abreast. -/
theorem Abreast.runSteps {pipeline : List Scheduled}
    (within : ∀ item ∈ pipeline, item.step.strategy ≠ .banner → item.step.Within tells)
    (abreast : world.Abreast alike world') :
    ∃ pairs : List (List Occurrence × List Occurrence),
      List.Forall₂ (fun item pair => item.Beside tells config pair.1 pair.2) pipeline pairs ∧
      world.outcomes engine config pipeline = world'.outcomes other config pipeline ∧
      world.Unfolds engine (pairs.flatMap Prod.fst) (world.runSteps engine config pipeline) ∧
      world'.Unfolds other (pairs.flatMap Prod.snd) (world'.runSteps other config pipeline) ∧
      (world.runSteps engine config pipeline).Abreast alike
        (world'.runSteps other config pipeline) := by
  induction pipeline generalizing world world' with
  | nil => exact ⟨[], .nil, rfl, .done world, .done world', abreast⟩
  | cons item rest inductionHypothesis =>
      obtain ⟨first, others⟩ := List.forall_mem_cons.mp within
      have parted := abreast.execute mirrors pictures config first
      unfold World.outcomes World.runSteps
      generalize world.execute engine config item.context item.step = ending at parted ⊢
      generalize world'.execute other config item.context item.step = ending' at parted ⊢
      cases parted with
      | @both history history' after after' outcome beside front front' later =>
          obtain ⟨pairs, behind, outcomes, back, back', last⟩ := inductionHypothesis others later
          exact ⟨(history, history') :: pairs, .cons beside behind, by rw [outcomes],
            front.append back, front'.append back', last⟩

end World

end Rehearsal

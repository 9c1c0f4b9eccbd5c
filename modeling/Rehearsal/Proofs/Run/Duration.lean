import Mathlib.Algebra.GroupWithZero.Nat
import Rehearsal.Config.Reader
import Rehearsal.Proofs.Run.Bracket
import Rehearsal.Proofs.Run.Timetable
import Rehearsal.Proofs.Step.BuiltIn
import Rehearsal.Proofs.Suite.Steps

/-!
How long a run takes.

Time passes in a wait, which has its bound, and over calls that are answered.  A wait comes to its
end because every rest in it takes up some of its time, and a run because there are only so many
steps in its pipeline.
-/

namespace Rehearsal

namespace Occurrence

/-- How many milliseconds pass. -/
def ms : Occurrence → Nat
  | .answered _ ms _ | .dropped _ ms | .rested ms => ms
  | _ => 0

/-- The call that is answered, and how long that takes. -/
def answered? : Occurrence → Option (Call × Nat)
  | .answered call ms _ => some (call, ms)
  | _ => none

@[simp]
theorem ms_entered (scenario : String) (index : Nat) : (entered scenario index).ms = 0 := rfl

/-- If time passes, then over a call that is answered. -/
def Brisk : Occurrence → Prop
  | .dropped _ _ | .rested _ => False
  | _ => True

end Occurrence

/-- How many milliseconds pass in a history. -/
def spent (history : List Occurrence) : Nat :=
  (history.map Occurrence.ms).sum

/-- How many milliseconds calls have taken. -/
def latency (asked : List (Call × Nat)) : Nat :=
  (asked.map Prod.snd).sum

@[simp]
theorem spent_nil : spent [] = 0 := rfl

@[simp]
theorem spent_cons (occurrence : Occurrence) (history : List Occurrence) :
    spent (occurrence :: history) = occurrence.ms + spent history := by
  simp [spent]

@[simp]
theorem spent_append (front back : List Occurrence) :
    spent (front ++ back) = spent front + spent back := by
  simp [spent]

theorem spent_of_brisk {history : List Occurrence}
    (brisk : ∀ occurrence ∈ history, occurrence.Brisk) :
    spent history = latency (history.filterMap Occurrence.answered?) := by
  induction history with
  | nil => rfl
  | cons occurrence rest inductionHypothesis =>
      obtain ⟨first, others⟩ := List.forall_mem_cons.mp brisk
      rw [spent_cons, inductionHypothesis others]
      cases occurrence with
      | answered call ms reply => simp [Occurrence.ms, Occurrence.answered?, latency]
      | dropped | rested => exact first.elim
      | entered | recorded | remarked | noted =>
          simp [List.filterMap_cons, Occurrence.ms, Occurrence.answered?]

namespace World

variable {σ : Type} {engine : Engine σ} {world after : World σ}

theorem Undergoes.clock {occurrence : Occurrence}
    (undergone : world.Undergoes engine occurrence after) :
    after.clock = world.clock + occurrence.ms := by
  cases undergone with
  | answered | dropped | rested | entered | recorded | remarked | noted => rfl

theorem Unfolds.clock {history : List Occurrence} (unfolds : world.Unfolds engine history after) :
    after.clock = world.clock + spent history := by
  induction unfolds with
  | done => rfl
  | step undergone _ inductionHypothesis =>
      rw [inductionHypothesis, undergone.clock, spent_cons]
      omega

end World

namespace Course

variable {course : Course} {interval bound ended : Nat} {ending : WaitEnd} {starts : List Nat}

theorem mul_le_of_began {j start : Nat} (begins : course.began interval j = some start) :
    j * interval ≤ start := by
  induction j generalizing start with
  | zero => simp
  | succ j inductionHypothesis =>
      unfold began at begins
      cases earlier : course.began interval j with
      | none => simp [earlier] at begins
      | some before =>
          cases takes : course.latency j with
          | none => simp [earlier, takes] at begins
          | some latency =>
              have rested := inductionHypothesis earlier
              simp [earlier, takes] at begins
              rw [Nat.succ_mul]
              omega

/-- A wait ends within its bound, and between two of its probes there is a rest. -/
theorem Timetable.within (timetable : course.Timetable interval bound ending ended starts)
    (positive : 0 < interval) : ended ≤ bound ∧ starts.length ≤ bound / interval + 1 := by
  have few : ∀ j start, course.began interval j = some start → start ≤ bound →
      j + 1 ≤ bound / interval + 1 := by
    intro j start begins early
    have rests := mul_le_of_began begins
    have fits : j ≤ bound / interval := (Nat.le_div_iff_mul_le positive).mpr (by omega)
    omega
  by_cases answered : ∃ k instant, course.Decides k ∧ course.answered interval k = some instant ∧
      instant ≤ bound
  · obtain ⟨k, instant, decides, answered, early⟩ := answered
    obtain ⟨rfl, counted, -⟩ := timetable.decided k instant decides answered early
    obtain ⟨start, begins, before⟩ := exists_began_of_answered answered
    rw [counted]
    exact ⟨early, few k start begins (by omega)⟩
  · obtain ⟨-, rfl, begun⟩ := timetable.elapsed fun k instant decides found =>
      Nat.lt_of_not_le fun early => answered ⟨k, instant, decides, found, early⟩
    refine ⟨Nat.le_refl _, ?_⟩
    cases count : starts.length with
    | zero => exact Nat.zero_le _
    | succ last =>
        obtain ⟨start, begins, early⟩ := (begun last).mp (by omega)
        exact few last start begins early

end Course

/-- What comes to pass in a wait that keeps to its bound, and how the wait ends; two probes are at
least `interval` milliseconds apart. -/
structure Condition.AwaitsWithin (condition : Condition) (interval bound : Nat)
    (history : List Occurrence) (ending : WaitEnd) : Prop where
  awaits : condition.Awaits interval history ending
  inTime : spent history ≤ bound
  few : (history.filterMap Occurrence.call?).length ≤ bound / interval + 1

namespace World

variable {σ : Type} (engine : Engine σ) (config : Config) (condition : Condition)

/-- It is not the fuel that ends the polling, as long as there is enough of it. -/
theorem poll_of_enough {interval deadline fuel : Nat} (positive : 0 < interval) {world : World σ}
    (inTime : world.clock ≤ deadline) (enough : deadline < world.clock + fuel) (more : Nat) :
    world.poll engine condition interval deadline (fuel + more) =
      world.poll engine condition interval deadline fuel := by
  induction fuel generalizing world with
  | zero => omega
  | succ fuel inductionHypothesis =>
      rw [Nat.succ_add]
      have probes := poll_probes engine condition interval deadline fuel world
      generalize world.poll engine condition interval deadline (fuel + 1) = polled at probes ⊢
      cases probes with
      | late late => exact poll_of_late late
      | failed answers => exact poll_of_answers answers
      | met answers holds => simp only [poll_of_answers answers, holds, if_true]
      | elapsed answers vain late =>
          simp only [poll_of_answers answers, vain, Bool.false_eq_true, if_false, if_pos late]
      | again answers vain early =>
          have clock := answers.clock
          simp only [poll_of_answers answers, vain, Bool.false_eq_true, if_false,
            if_neg (Nat.not_lt.mpr early)]
          exact inductionHypothesis early (by simp only; omega)

/-- A wait is a row of probes for which there is time, and it ends within its bound. -/
theorem await_in_time (positive : 0 < config.pollIntervalMs) (world : World σ) :
    ∃ history,
      condition.AwaitsWithin config.pollIntervalMs (condition.bound config) history
        (world.await engine config condition).1 ∧
      ∃ elapsed, world.Unfolds engine
        (history ++ waitRemark condition elapsed (world.await engine config condition).1)
        (world.await engine config condition).2 := by
  obtain ⟨history, awaits, elapsed, unfolds⟩ := await_unfolds engine config condition world
  obtain ⟨ended, starts, timetable, ticks, asks⟩ :=
    poll_timely engine condition positive (condition.bound config + 1) (condition.bound config)
      world (by omega)
  obtain ⟨-, clock, calls⟩ := await_eq_poll engine config condition world
  obtain ⟨early, few⟩ := timetable.within positive
  have silent : ∀ ending, spent (waitRemark condition elapsed ending) = 0 := by
    intro ending
    cases ending <;> rfl
  refine ⟨history, ⟨awaits, ?_, ?_⟩, elapsed, unfolds⟩
  · have spends := unfolds.clock
    rw [clock, ticks, spent_append, silent] at spends
    omega
  · have probes := congrArg List.length unfolds.calls
    rw [calls, asks] at probes
    simp at probes
    omega

end World

/-- Without a wait, a step made of a built-in action spends time on calls only. -/
theorem Step.Does.leaves_brisk {step : Step} {action : Action} (does : step.Does action)
    (builtIn : action.BuiltIn) (config : Config) (context : Context) :
    step.Leaves Occurrence.Brisk config context where
  tells _ _ := trivial
  work _ held :=
    builtIn.leaves (fun _ => trivial) (fun _ _ _ _ => trivial) (fun _ _ _ _ _ => trivial)
      (does.callback.symm.trans held) _

theorem Evidence.Pictured.brisk {evidence : Evidence} {picture : List Occurrence}
    (pictured : evidence.Pictured picture) : ∀ occurrence ∈ picture, occurrence.Brisk := by
  cases pictured <;> simp [Occurrence.Brisk]

/-- How long a step may wait. -/
def Scheduled.patience (config : Config) (item : Scheduled) : Nat :=
  (item.step.strategy.condition?.map (Condition.bound config)).getD 0

/-- What comes to pass while a step of the pipeline is run: a wait within its bound, if the step
waits at all, and behind it nothing over which time passes but the calls in the last place. -/
inductive Scheduled.Spends (config : Config) (item : Scheduled) :
    List Occurrence → List (Call × Nat) → Prop where
  | waited {condition : Condition} {waiting rest : List Occurrence} {ending : WaitEnd} :
      item.step.strategy = .wait condition →
      condition.AwaitsWithin config.pollIntervalMs (condition.bound config) waiting ending →
      (∀ occurrence ∈ rest, occurrence.Brisk) →
      Spends config item
        (.entered item.context.scenario item.context.index :: (waiting ++ rest))
        (rest.filterMap Occurrence.answered?)
  | unwaited {rest : List Occurrence} :
      (∀ condition, item.step.strategy ≠ .wait condition) →
      (∀ occurrence ∈ rest, occurrence.Brisk) →
      Spends config item (.entered item.context.scenario item.context.index :: rest)
        (rest.filterMap Occurrence.answered?)

theorem Scheduled.Spends.spent_le {config : Config} {item : Scheduled} {history : List Occurrence}
    {asked : List (Call × Nat)} (spends : item.Spends config history asked) :
    spent history ≤ item.patience config + latency asked := by
  cases spends with
  | @waited condition waiting rest ending waits within brisk =>
      have inTime := within.inTime
      have bound : item.patience config = condition.bound config := by
        rw [patience, waits]
        rfl
      rw [spent_cons, spent_append, spent_of_brisk brisk, bound, Occurrence.ms_entered]
      omega
  | unwaited _ brisk =>
      rw [spent_cons, spent_of_brisk brisk, Occurrence.ms_entered]
      omega

theorem spent_flatMap_le {config : Config} {pipeline : List Scheduled}
    {steps : List (List Occurrence × List (Call × Nat))}
    (spend : List.Forall₂ (fun item step => item.Spends config step.1 step.2) pipeline steps) :
    spent (steps.flatMap Prod.fst) ≤
      (pipeline.map (Scheduled.patience config)).sum + latency (steps.flatMap Prod.snd) := by
  induction spend with
  | nil => simp [latency]
  | @cons item step pipeline steps spends _ inductionHypothesis =>
      have here := spends.spent_le
      have both : latency (step.2 ++ steps.flatMap Prod.snd) =
          latency step.2 + latency (steps.flatMap Prod.snd) := by
        simp [latency]
      rw [List.flatMap_cons, List.flatMap_cons, spent_append, List.map_cons, List.sum_cons, both]
      omega

namespace World

variable {σ : Type} (engine : Engine σ) (config : Config)

theorem execute_spends (positive : 0 < config.pollIntervalMs) {item : Scheduled}
    (builtIn : item.step.BuiltIn) (world : World σ) :
    ∃ course : List Occurrence × List (Call × Nat), item.Spends config course.1 course.2 ∧
      world.Unfolds engine course.1
        (world.execute engine config item.context item.step).2 := by
  cases strategy : item.step.strategy with
  | banner =>
      obtain ⟨-, unfolds⟩ :=
        execute_banner_unfolds engine config item.context item.step strategy world
      exact ⟨(_, _),
        .unwaited (by simp [strategy]) (by simp [bannerHistory, Occurrence.Brisk]), unfolds⟩
  | wait condition =>
      obtain ⟨action, own, does⟩ := builtIn.resolve_left (by simp [strategy])
      obtain ⟨waiting, ending, elapsed, rest, picture, outcome, -, within, follows, pictured,
          unfolds⟩ :=
        execute_wait_unfolds engine config item.context item.step strategy
          (await_in_time engine config condition positive _)
      have remark : ∀ occurrence ∈ waitRemark condition elapsed ending, occurrence.Brisk := by
        cases ending <;> simp [waitRemark, Occurrence.Brisk]
      rw [List.append_assoc] at unfolds
      refine ⟨(_, _), .waited strategy within ?_, unfolds⟩
      simp only [List.forall_mem_append]
      have leaves := does.leaves_brisk own config item.context
      exact ⟨⟨remark, leaves.follows follows⟩, leaves.lastWords, pictured.brisk⟩
  | immediate =>
      obtain ⟨action, own, does⟩ := builtIn.resolve_left (by simp [strategy])
      obtain ⟨course, picture, outcome, -, goes, pictured, unfolds⟩ :=
        execute_immediate_unfolds engine config item.context item.step strategy world
      refine ⟨(_, _), .unwaited (by simp [strategy]) ?_, unfolds⟩
      rw [List.forall_mem_append]
      exact ⟨(does.leaves_brisk own config item.context).acts strategy goes, pictured.brisk⟩

/-- To run the next step of a suite until none is left ends with this suite and this world. -/
inductive Empties (engine : Engine σ) (config : Config) :
    Suite → World σ → Suite → World σ → Prop where
  | done {suite : Suite} {world : World σ} :
      suite.next? = none → Empties engine config suite world suite world
  | next {suite rest last : Suite} {item : Scheduled} {world after : World σ} :
      suite.next? = some (item, rest) →
      Empties engine config rest (world.execute engine config item.context item.step).2 last
        after →
      Empties engine config suite world last after

theorem runSteps_empties (suite : Suite) (world : World σ) :
    Empties engine config suite world { suite with pipeline := [] }
      (world.runSteps engine config suite.pipeline) := by
  obtain ⟨registry, pipeline, trace⟩ := suite
  induction pipeline generalizing world with
  | nil => exact .done rfl
  | cons item rest inductionHypothesis => exact .next rfl (inductionHypothesis _)

end World

/-- Settings under which a run can go on. -/
structure Config.Sound (config : Config) : Prop where
  timeout : 0 < config.timeoutMs
  pollInterval : 0 < config.pollIntervalMs
  labelTag : Text.isBlank config.labelTag = false

namespace Config

theorem check_cases (config : Config) :
    config.Sound ∧ config.check = .ok config ∨
      ¬config.Sound ∧ ∃ fault, config.check = .error fault := by
  unfold check
  split
  next none => exact .inr ⟨fun sound => absurd sound.timeout (by omega), _, rfl⟩
  next some =>
    split
    next none => exact .inr ⟨fun sound => absurd sound.pollInterval (by omega), _, rfl⟩
    next rests =>
      split
      next blank => exact .inr ⟨fun sound => by simp [sound.labelTag] at blank, _, rfl⟩
      next named =>
        exact .inl ⟨⟨Nat.pos_of_ne_zero some, Nat.pos_of_ne_zero rests, by simpa using named⟩, rfl⟩

theorem sound_of_ofToml {text : String} {config : Config} (loaded : ofToml text = .ok config) :
    config.Sound := by
  unfold ofToml at loaded
  split at loaded
  next decoded _ =>
    rcases decoded.check_cases with ⟨sound, checked⟩ | ⟨-, fault, refused⟩
    · rw [checked] at loaded
      cases loaded
      exact sound
    · rw [refused] at loaded
      cases loaded
  next => cases loaded

theorem ofToml_of_not_sound {text : String} {decoded : Config}
    (decodes : Toml.decode (ofNode .toml) text = .ok decoded) (unsound : ¬decoded.Sound) :
    ∃ fault, ofToml text = .error (.config fault) := by
  rcases decoded.check_cases with ⟨sound, -⟩ | ⟨-, fault, refused⟩
  · exact (unsound sound).elim
  · exact ⟨fault, by simp only [ofToml, decodes, refused]; rfl⟩

end Config

/-- How long a call takes that begins in a state. -/
def Engine.takes {σ : Type} (engine : Engine σ) (call : Call) (state : σ) : Nat :=
  engine.delay call (engine.accept call state)

namespace World

variable {σ : Type} {engine : Engine σ} {config : Config} {entryUrl : String} {suite : Suite}

/-- How a run comes to its end. -/
structure EndsInTime (engine : Engine σ) (config : Config) (entryUrl : String) (suite : Suite)
    (world : World σ) : Prop where
  /-- If the engine does not start, the run is over with that. -/
  refused : ∀ error, engine.Refuses entryUrl error world.state →
    ∃ after,
      world.run engine config entryUrl suite = (.error (.engine error), after) ∧
      after.clock = world.clock + engine.takes (.start entryUrl) world.state
  /-- A run that has started empties its pipeline.  It takes no longer than its waits may and the
  calls do that are made outside of them. -/
  completed : engine.Starts entryUrl world.state →
    ∃ begun ended last steps after,
      begun =
        ((world.tell suite.trace).started engine entryUrl).tell #[runningLine suite] ∧
      world.run engine config entryUrl suite = (.ok (), after) ∧
      Empties engine config suite begun last ended ∧ last.pending = 0 ∧
      List.Forall₂ (fun item step => item.Spends config step.1 step.2) suite.pipeline steps ∧
      begun.Unfolds engine (steps.flatMap Prod.fst) ended ∧
      after.clock ≤
        world.clock + (suite.pipeline.map (Scheduled.patience config)).sum +
          (engine.takes (.start entryUrl) world.state + latency (steps.flatMap Prod.snd) +
            if engine.closes then engine.takes .finish ended.state else 0)
  /-- No wait is cut short for want of fuel. -/
  unforced : ∀ (condition : Condition) (waiting : World σ) (more : Nat),
    waiting.poll engine condition config.pollIntervalMs
        (waiting.clock + condition.bound config) (condition.bound config + 1 + more) =
      waiting.poll engine condition config.pollIntervalMs
        (waiting.clock + condition.bound config) (condition.bound config + 1)

theorem clock_started (engine : Engine σ) (entryUrl : String) (world : World σ) :
    (world.started engine entryUrl).clock =
      world.clock + engine.takes (.start entryUrl) world.state := rfl

theorem clock_drive (engine : Engine σ) (config : Config) (suite : Suite) (world : World σ) :
    (world.drive engine config suite).clock =
      (world.emptied engine config suite).clock +
        if engine.closes then
          engine.takes .finish (world.emptied engine config suite).state
        else 0 := by
  obtain ⟨lines, same⟩ := shutDown_eq engine (world.emptied engine config suite)
  have ended : (world.drive engine config suite).clock =
      ((world.emptied engine config suite).shutDown engine).clock := rfl
  rw [ended, same]
  split <;> rfl

theorem endsInTime (engine : Engine σ) (positive : 0 < config.pollIntervalMs) (entryUrl : String)
    (builtIn : ∀ item ∈ suite.pipeline, item.step.BuiltIn) (world : World σ) :
    world.EndsInTime engine config entryUrl suite where
  refused error refuses := ⟨_, run_of_refuses refuses, rfl⟩
  completed starts := by
    obtain ⟨steps, spend, unfolds⟩ := runSteps_courses engine config
      (fun item membership => execute_spends engine config positive (builtIn item membership))
      (((world.tell suite.trace).started engine entryUrl).tell #[runningLine suite])
    refine ⟨_, _, _, steps, _, rfl, run_of_starts starts, runSteps_empties engine config suite _,
      rfl, spend, unfolds, ?_⟩
    have ends := clock_drive engine config suite ((world.tell suite.trace).started engine entryUrl)
    have passes := unfolds.clock
    have within := spent_flatMap_le spend
    have begins := clock_started engine entryUrl (world.tell suite.trace)
    simp only [emptied] at ends
    simp only [tell, write] at begins passes ends ⊢
    omega
  unforced condition waiting more :=
    poll_of_enough engine condition positive (by omega) (by omega) more

end World

/-- Settings that can be loaded let every run of built-in actions come to its end. -/
theorem Config.loaded_endsInTime {σ : Type} (engine : Engine σ) {text : String} {config : Config}
    (loaded : ofToml text = .ok config) (entryUrl : String) {suite : Suite}
    (builtIn : ∀ item ∈ suite.pipeline, item.step.BuiltIn) (world : World σ) :
    config.Sound ∧
      (∀ other decoded, Toml.decode (ofNode .toml) other = .ok decoded → ¬decoded.Sound →
        ∃ fault, ofToml other = .error (.config fault)) ∧
      world.EndsInTime engine config entryUrl suite :=
  ⟨sound_of_ofToml loaded, fun _ _ decodes unsound => ofToml_of_not_sound decodes unsound,
    world.endsInTime engine (sound_of_ofToml loaded).pollInterval entryUrl builtIn⟩

namespace Script

/-- A page that takes a second to look for a selector. -/
def sluggish : Script :=
  { latency := [("selector_exists", 1000)], faults := [], effects := [], closes := true }

/-- There is soup for lunch. -/
def soup : Suite :=
  Suite.empty.scenario "Lunch" [(Action.find "the soup" "#soup").voiced .then]

theorem soup_builtIn : ∀ item ∈ soup.pipeline, item.step.BuiltIn := by
  refine ((Suite.empty_only Step.BuiltIn).scenario Step.banner_builtIn "Lunch" ?_).scheduled
  intro step membership
  obtain rfl := List.mem_singleton.mp membership
  exact (Action.BuiltIn.find "the soup" "#soup").voiced .then

theorem soup_endsInTime :
    Config.ofToml "timeout_ms = 250\n" = .ok { Config.default with timeoutMs := 250 } ∧
      (World.initial ⟨Page.blank, [], []⟩).EndsInTime sluggish.engine
        { Config.default with timeoutMs := 250 } "/menu" soup := by
  have loaded : Config.ofToml "timeout_ms = 250\n" =
      .ok { Config.default with timeoutMs := 250 } := by decide +kernel
  exact ⟨loaded, (Config.loaded_endsInTime sluggish.engine loaded "/menu" soup_builtIn _).2.2⟩

example :
    ((World.initial ⟨Page.blank, [], []⟩).run sluggish.engine
      { Config.default with timeoutMs := 250 } "/menu" soup).2.clock = 250 := by
  decide +kernel

end Script

end Rehearsal

import Rehearsal.Engine.Script
import Rehearsal.Proofs.Run.Probing

/-!
The timetable of a wait.

The engine decides by itself how long each probe would take and what it would find.  From that alone
follows when each probe begins and is answered, and how a wait for which there is only so much time
comes to its end.
-/

namespace Rehearsal

/-- What the probes of a wait would take and find, one after the other. -/
structure Course where
  /-- How long the engine takes over a probe; nothing where it never answers. -/
  latency : Nat → Option Nat
  /-- Whether the condition holds. -/
  answer : Nat → Except EngineError Bool

namespace Course

/-- The instant at which a probe begins, if it comes to that. -/
def began (course : Course) (interval : Nat) : Nat → Option Nat
  | 0 => some 0
  | j + 1 => do
      let start ← course.began interval j
      let latency ← course.latency j
      return start + latency + interval

/-- The instant at which a probe is answered, if it ever is. -/
def answered (course : Course) (interval j : Nat) : Option Nat := do
  let start ← course.began interval j
  let latency ← course.latency j
  return start + latency

/-- A probe is the first with an answer that ends the wait. -/
structure Decides (course : Course) (k : Nat) : Prop where
  before : ∀ j < k, course.answer j = .ok false
  here : course.answer k ≠ .ok false

/-- The course behind the first probe. -/
def tail (course : Course) : Course :=
  { latency := fun j => course.latency (j + 1), answer := fun j => course.answer (j + 1) }

/-- How a wait ends that has so much time, by the course of its probes: the end, its instant, and
the instants at which its probes have begun. -/
structure Timetable (course : Course) (interval bound : Nat) (ending : WaitEnd) (ended : Nat)
    (starts : List Nat) : Prop where
  began : (List.range starts.length).map (course.began interval) = starts.map some
  decided : ∀ k instant, course.Decides k → course.answered interval k = some instant →
    instant ≤ bound →
      ended = instant ∧ starts.length = k + 1 ∧
        (course.answer k = .ok true → ending = .met) ∧
        ∀ error, course.answer k = .error error → ending = .failed error
  elapsed : (∀ k instant, course.Decides k → course.answered interval k = some instant →
    bound < instant) →
      ending = .elapsed ∧ ended = bound ∧
        ∀ j, j < starts.length ↔ ∃ start, course.began interval j = some start ∧ start ≤ bound

variable {course : Course} {interval bound : Nat}

theorem Decides.unique {k other : Nat} (decides : course.Decides k)
    (also : course.Decides other) : k = other := by
  rcases Nat.lt_trichotomy k other with earlier | same | later
  · exact (decides.here (also.before k earlier)).elim
  · exact same
  · exact (also.here (decides.before other later)).elim

theorem Decides.tail {k : Nat} (decides : course.Decides (k + 1)) : course.tail.Decides k where
  before j earlier := decides.before (j + 1) (by omega)
  here := decides.here

theorem decides_succ {k : Nat} (vain : course.answer 0 = .ok false)
    (decides : course.tail.Decides k) : course.Decides (k + 1) where
  before j earlier := by
    cases j with
    | zero => exact vain
    | succ j => exact decides.before j (by omega)
  here := decides.here

/-- Behind its first probe a course is its own tail, only later. -/
theorem began_succ (j : Nat) {latency : Nat} (first : course.latency 0 = some latency) :
    course.began interval (j + 1) =
      (course.tail.began interval j).map (latency + interval + ·) := by
  induction j with
  | zero => simp [began, first]
  | succ j inductionHypothesis =>
      rw [began, inductionHypothesis, began]
      cases course.tail.began interval j with
      | none => rfl
      | some start =>
          cases later : course.latency (j + 1) with
          | none => simp [tail, later]
          | some latency =>
              simp [tail, later]
              omega

theorem answered_succ (j : Nat) {latency : Nat} (first : course.latency 0 = some latency) :
    course.answered interval (j + 1) =
      (course.tail.answered interval j).map (latency + interval + ·) := by
  rw [answered, began_succ j first, answered]
  cases course.tail.began interval j with
  | none => rfl
  | some start =>
      cases later : course.latency (j + 1) with
      | none => simp [tail, later]
      | some latency =>
          simp [tail, later]
          omega

theorem began_succ_of_silent (silent : course.latency 0 = none) (j : Nat) :
    course.began interval (j + 1) = none := by
  induction j with
  | zero => simp [began, silent]
  | succ j inductionHypothesis =>
      rw [began, inductionHypothesis]
      rfl

theorem exists_began_of_answered {j instant : Nat}
    (found : course.answered interval j = some instant) :
    ∃ start, course.began interval j = some start ∧ start ≤ instant := by
  unfold answered at found
  cases begins : course.began interval j with
  | none =>
      rw [begins] at found
      cases found
  | some start =>
      refine ⟨start, rfl, ?_⟩
      cases takes : course.latency j with
      | none => simp [begins, takes] at found
      | some latency =>
          simp [begins, takes] at found
          omega

/-- A wait with time for one probe only. -/
theorem Timetable.of_late
    (first : ∀ instant, course.Decides 0 → course.answered interval 0 = some instant →
      bound < instant)
    (later : ∀ j start, course.began interval (j + 1) = some start → bound < start) :
    course.Timetable interval bound .elapsed bound [0] where
  began := rfl
  decided k instant decides answered timely := by
    have late : bound < instant := by
      cases k with
      | zero => exact first instant decides answered
      | succ k =>
          obtain ⟨start, begins, before⟩ := exists_began_of_answered answered
          exact Nat.lt_of_lt_of_le (later k start begins) before
    omega
  elapsed _ := by
    refine ⟨rfl, rfl, ?_⟩
    intro j
    cases j with
    | zero => simp [Course.began]
    | succ j =>
        constructor
        · intro inside
          simp at inside
        · rintro ⟨start, begins, timely⟩
          have late := later j start begins
          omega

theorem le_of_began_succ {j latency start : Nat} (takes : course.latency 0 = some latency)
    (begins : course.began interval (j + 1) = some start) : latency + interval ≤ start := by
  rw [began_succ j takes] at begins
  obtain ⟨early, -, rfl⟩ := Option.map_eq_some_iff.mp begins
  omega

theorem Timetable.of_silent (silent : course.latency 0 = none) :
    course.Timetable interval bound .elapsed bound [0] := by
  refine .of_late ?_ ?_
  · intro instant _ answered
    simp [Course.answered, Course.began, silent] at answered
  · intro j start begins
    rw [began_succ_of_silent silent j] at begins
    cases begins

theorem Timetable.of_slow {latency : Nat} (takes : course.latency 0 = some latency)
    (late : bound < latency) : course.Timetable interval bound .elapsed bound [0] := by
  refine .of_late ?_ ?_
  · intro instant _ answered
    simp [Course.answered, Course.began, takes] at answered
    omega
  · intro j start begins
    have behind := le_of_began_succ takes begins
    omega

theorem Timetable.of_vain {latency : Nat} (takes : course.latency 0 = some latency)
    (vain : course.answer 0 = .ok false) (late : bound < latency + interval) :
    course.Timetable interval bound .elapsed bound [0] := by
  refine .of_late ?_ ?_
  · intro instant decides _
    exact (decides.here vain).elim
  · intro j start begins
    have behind := le_of_began_succ takes begins
    omega

theorem Timetable.of_answer {latency : Nat} {ending : WaitEnd}
    (takes : course.latency 0 = some latency) (timely : latency ≤ bound)
    (finds : course.answer 0 = .ok true ∧ ending = .met ∨
      ∃ error, course.answer 0 = .error error ∧ ending = .failed error) :
    course.Timetable interval bound ending latency [0] := by
  have decides : course.Decides 0 := by
    refine ⟨by simp, ?_⟩
    rcases finds with ⟨holds, -⟩ | ⟨error, fails, -⟩
    · simp [holds]
    · simp [fails]
  have answered : course.answered interval 0 = some latency := by
    simp [Course.answered, Course.began, takes]
  refine ⟨rfl, ?_, ?_⟩
  · intro k instant also found _
    obtain rfl := also.unique decides
    obtain rfl : latency = instant := Option.some.inj (answered.symm.trans found)
    refine ⟨rfl, rfl, ?_, ?_⟩
    · intro holds
      rcases finds with ⟨-, met⟩ | ⟨error, fails, -⟩
      · exact met
      · cases holds.symm.trans fails
    · intro error fails
      rcases finds with ⟨holds, -⟩ | ⟨other, failed, ends⟩
      · cases holds.symm.trans fails
      · cases failed.symm.trans fails
        exact ends
  · intro late
    have none := late 0 latency decides answered
    omega

/-- A wait that goes on behind its first probe. -/
theorem Timetable.again {latency ended : Nat} {ending : WaitEnd} {starts : List Nat}
    (takes : course.latency 0 = some latency) (vain : course.answer 0 = .ok false)
    (timely : latency + interval ≤ bound)
    (rest : course.tail.Timetable interval (bound - (latency + interval)) ending ended starts) :
    course.Timetable interval bound ending (latency + interval + ended)
      (0 :: starts.map (latency + interval + ·)) where
  began := by
    have behind : course.began interval ∘ Nat.succ =
        Option.map (latency + interval + ·) ∘ course.tail.began interval :=
      funext fun j => began_succ j takes
    rw [List.length_cons, List.length_map, List.range_succ_eq_map, List.map_cons, List.map_map,
      behind, ← List.map_map, rest.began]
    simp [Course.began]
  decided k instant decides answered soon := by
    cases k with
    | zero => exact (decides.here vain).elim
    | succ k =>
        rw [answered_succ k takes, Option.map_eq_some_iff] at answered
        obtain ⟨later, answered, rfl⟩ := answered
        obtain ⟨rfl, counted, met, failed⟩ :=
          rest.decided k later decides.tail answered (by omega)
        refine ⟨rfl, ?_, met, failed⟩
        simp [counted]
  elapsed late := by
    have behind : ∀ k instant, course.tail.Decides k →
        course.tail.answered interval k = some instant →
          bound - (latency + interval) < instant := by
      intro k instant decides answered
      have found := late (k + 1) (latency + interval + instant) (decides_succ vain decides)
        (by rw [answered_succ k takes, answered]; rfl)
      omega
    obtain ⟨ends, rfl, begun⟩ := rest.elapsed behind
    refine ⟨ends, by omega, ?_⟩
    intro j
    cases j with
    | zero => simp [Course.began]
    | succ j =>
        rw [List.length_cons, List.length_map, Nat.add_lt_add_iff_right, begun j,
          began_succ j takes]
        constructor
        · rintro ⟨start, begins, timely⟩
          exact ⟨latency + interval + start, by rw [begins]; rfl, by omega⟩
        · rintro ⟨start, begins, timely⟩
          obtain ⟨early, found, rfl⟩ := Option.map_eq_some_iff.mp begins
          exact ⟨early, found, by omega⟩

theorem Timetable.late_of_elapsed {ended : Nat} {starts : List Nat}
    (timetable : course.Timetable interval bound .elapsed ended starts) (k instant : Nat)
    (decides : course.Decides k) (answered : course.answered interval k = some instant) :
    bound < instant := by
  rcases Nat.lt_or_ge bound instant with late | early
  · exact late
  obtain ⟨-, -, met, failed⟩ := timetable.decided k instant decides answered early
  cases finds : course.answer k with
  | error error => cases failed error finds
  | ok found =>
      cases found with
      | false => exact (decides.here finds).elim
      | true => cases met finds

/-- The condition is found to hold in time, and nothing else before. -/
def Meets (course : Course) (interval bound : Nat) : Prop :=
  ∃ k instant, course.Decides k ∧ course.answered interval k = some instant ∧ instant ≤ bound ∧
    course.answer k = .ok true

theorem Timetable.met_iff {ending : WaitEnd} {ended : Nat} {starts : List Nat}
    (timetable : course.Timetable interval bound ending ended starts) :
    ending = .met ↔ course.Meets interval bound := by
  constructor
  · intro met
    by_cases meets : course.Meets interval bound
    · exact meets
    -- No answer that ends the wait comes in time, so that it has run out.
    have late : ∀ k instant, course.Decides k → course.answered interval k = some instant →
        bound < instant := by
      intro k instant decides answered
      rcases Nat.lt_or_ge bound instant with late | early
      · exact late
      obtain ⟨-, -, -, failed⟩ := timetable.decided k instant decides answered early
      cases finds : course.answer k with
      | error error => cases met.symm.trans (failed error finds)
      | ok found =>
          cases found with
          | false => exact (decides.here finds).elim
          | true => exact (meets ⟨k, instant, decides, answered, early, finds⟩).elim
    cases met.symm.trans (timetable.elapsed late).1
  · rintro ⟨k, instant, decides, answered, timely, finds⟩
    exact (timetable.decided k instant decides answered timely).2.2.1 finds

theorem began_of_prompt (prompt : ∀ j, course.latency j = some 0) (j : Nat) :
    course.began interval j = some (j * interval) := by
  induction j with
  | zero => simp [began]
  | succ j inductionHypothesis =>
      rw [began, inductionHypothesis]
      simp [prompt, Nat.succ_mul]

theorem Timetable.length_of_prompt {ended : Nat} {starts : List Nat}
    (timetable : course.Timetable interval bound .elapsed ended starts)
    (prompt : ∀ j, course.latency j = some 0) (positive : 0 < interval) :
    starts.length = bound / interval + 1 := by
  obtain ⟨-, -, begun⟩ := timetable.elapsed timetable.late_of_elapsed
  have counted : ∀ j, j < starts.length ↔ j ≤ bound / interval := by
    intro j
    rw [begun j, began_of_prompt prompt j, Nat.le_div_iff_mul_le positive]
    simp
  have last := counted (bound / interval)
  have behind := counted (bound / interval + 1)
  omega

end Course

variable {σ : Type}

namespace Engine

/-- The state of the engine ahead of a probe, if the wait comes to it. -/
def probed (engine : Engine σ) (condition : Condition) : Nat → σ → σ
  | 0, state => state
  | j + 1, state =>
      probed engine condition j
        (engine.answer condition.probe (engine.accept condition.probe state)).2

/-- The course of a wait for a condition from a state of the engine on. -/
def course (engine : Engine σ) (condition : Condition) (state : σ) : Course where
  latency j :=
    let asked := engine.accept condition.probe (engine.probed condition j state)
    if engine.silent condition.probe asked then none
    else some (engine.delay condition.probe asked)
  answer j :=
    (engine.answer condition.probe
      (engine.accept condition.probe (engine.probed condition j state))).1.map condition.holds

theorem course_of_late (engine : Engine σ) (condition : Condition) {state : σ} {clock bound : Nat}
    (late : engine.silent condition.probe (engine.accept condition.probe state) = true ∨
      clock + bound < clock + engine.delay condition.probe (engine.accept condition.probe state)) :
    (engine.course condition state).latency 0 = none ∨
      ∃ latency, (engine.course condition state).latency 0 = some latency ∧ bound < latency := by
  by_cases silent : engine.silent condition.probe (engine.accept condition.probe state) = true
  · exact .inl (if_pos silent)
  · refine .inr ⟨_, if_neg silent, ?_⟩
    have slow := late.resolve_left silent
    simp only [Engine.probed]
    omega

end Engine

namespace World

section

variable {engine : Engine σ} {condition : Condition} {deadline : Nat}
  {reply : Except EngineError condition.probe.Reply} {world after : World σ}

theorem Answers.latency (answers : Answers engine condition.probe deadline reply world after) :
    ∃ latency, (engine.course condition world.state).latency 0 = some latency ∧
      after.clock = world.clock + latency := by
  refine ⟨_, if_neg ?_, answers.clock⟩
  rw [Bool.not_eq_true]
  exact answers.heard

theorem Answers.answer (answers : Answers engine condition.probe deadline reply world after) :
    (engine.course condition world.state).answer 0 = reply.map condition.holds := by
  rw [← answers.reply_eq]
  rfl

/-- The course goes on from the state in which an answer leaves the engine. -/
theorem Answers.course (answers : Answers engine condition.probe deadline reply world after) :
    engine.course condition after.state = (engine.course condition world.state).tail := by
  rw [answers.state]
  rfl

end

/-- Polling keeps to the timetable as long as the fuel outlasts the time that is left. -/
theorem poll_timely (engine : Engine σ) (condition : Condition) {interval : Nat}
    (positive : 0 < interval) (fuel bound : Nat) (world : World σ) (enough : bound < fuel) :
    ∃ ended starts,
      (engine.course condition world.state).Timetable interval bound
        (world.poll engine condition interval (world.clock + bound) fuel).1 ended starts ∧
      (world.poll engine condition interval (world.clock + bound) fuel).2.clock =
        world.clock + ended ∧
      (world.poll engine condition interval (world.clock + bound) fuel).2.calls.toList =
        world.calls.toList ++ starts.map fun start => (world.clock + start, condition.probe) := by
  induction fuel generalizing bound world with
  | zero => omega
  | succ fuel inductionHypothesis =>
      have probes :=
        poll_probes engine condition interval (world.clock + bound) fuel world
      generalize world.poll engine condition interval (world.clock + bound) (fuel + 1) = polled
        at probes ⊢
      cases probes with
      | late late =>
          refine ⟨bound, [0], ?_, rfl, by simp [begin]⟩
          rcases engine.course_of_late condition late with silent | ⟨latency, takes, slow⟩
          · exact .of_silent silent
          · exact .of_slow takes slow
      | @failed error after answers =>
          obtain ⟨latency, takes, clock⟩ := answers.latency
          have timely := answers.timely
          exact ⟨latency, [0], .of_answer takes (by omega) (.inr ⟨error, answers.answer, rfl⟩),
            clock, answers.calls⟩
      | @met found after answers holds =>
          obtain ⟨latency, takes, clock⟩ := answers.latency
          have timely := answers.timely
          have finds := answers.answer
          rw [Except.map, holds] at finds
          exact ⟨latency, [0], .of_answer takes (by omega) (.inl ⟨finds, rfl⟩), clock,
            answers.calls⟩
      | @elapsed found after answers vain late =>
          obtain ⟨latency, takes, clock⟩ := answers.latency
          have finds := answers.answer
          rw [Except.map, vain] at finds
          exact ⟨bound, [0], .of_vain takes finds (by omega), rfl, answers.calls⟩
      | @again found after answers vain early =>
          obtain ⟨latency, takes, clock⟩ := answers.latency
          have finds := answers.answer
          rw [Except.map, vain] at finds
          -- What is left of the time is counted from the next probe on.
          have deadline : after.clock + interval + (bound - (latency + interval)) =
              world.clock + bound := by
            omega
          have rest := inductionHypothesis (bound - (latency + interval))
            { after with clock := after.clock + interval } (by omega)
          simp only [deadline] at rest
          obtain ⟨ended, starts, timetable, ends, calls⟩ := rest
          rw [answers.course] at timetable
          refine ⟨_, _, .again takes finds (by omega) timetable, by omega, ?_⟩
          have shifted : ∀ start, after.clock + interval + start =
              world.clock + (latency + interval + start) := by
            intro start
            omega
          rw [calls, answers.calls, List.append_assoc, List.map_cons, List.map_map]
          simp [shifted, Function.comp_def]

/-- What a wait does to the clock, the state of the engine and its calls is what polling does. -/
theorem await_eq_poll (engine : Engine σ) (config : Config) (condition : Condition)
    (world : World σ) :
    let polled := world.poll engine condition config.pollIntervalMs
      (world.clock + condition.bound config) (condition.bound config + 1)
    (world.await engine config condition).1 = polled.1 ∧
      (world.await engine config condition).2.clock = polled.2.clock ∧
      (world.await engine config condition).2.calls = polled.2.calls := by
  intro polled
  simp only [await]
  split
  next after met => simp [polled, met, write]
  next => exact ⟨rfl, rfl, rfl⟩

/-- Whether a wait ends with its condition depends on the course of its probes alone. -/
theorem await_met_iff (engine : Engine σ) (config : Config) (condition : Condition)
    (world : World σ) (positive : 0 < config.pollIntervalMs) :
    (world.await engine config condition).1 = .met ↔
      (engine.course condition world.state).Meets config.pollIntervalMs
        (condition.bound config) := by
  obtain ⟨ended, starts, timetable, -⟩ :=
    poll_timely engine condition positive (condition.bound config + 1) (condition.bound config)
      world (by omega)
  obtain ⟨ends, -⟩ := await_eq_poll engine config condition world
  rw [ends]
  exact timetable.met_iff

end World

/-- A wait keeps to the timetable of its probes.  There are five seconds for an address, whatever
the settings say, and for anything else as much time as the settings give.  In a wait that runs out
an engine that answers at once is probed once at the beginning and once more for every interval that
there was time for. -/
theorem World.await_timely (engine : Engine σ) (config : Config) (condition : Condition)
    (world : World σ) (positive : 0 < config.pollIntervalMs) :
    ∃ bound ended starts,
      bound = (match condition with
        | .url _ => 5000
        | .selector _ | .text _ | .visible _ => config.timeoutMs) ∧
      (engine.course condition world.state).Timetable config.pollIntervalMs bound
        (world.await engine config condition).1 ended starts ∧
      (world.await engine config condition).2.clock = world.clock + ended ∧
      (world.await engine config condition).2.calls.toList =
        world.calls.toList ++
          starts.map (fun start => (world.clock + start, condition.probe)) ∧
      ((∀ j, (engine.course condition world.state).latency j = some 0) →
        (world.await engine config condition).1 = .elapsed →
          starts.length = bound / config.pollIntervalMs + 1) := by
  obtain ⟨ended, starts, timetable, clock, calls⟩ :=
    poll_timely engine condition positive (condition.bound config + 1) (condition.bound config)
      world (by omega)
  obtain ⟨ends, ticks, asks⟩ := await_eq_poll engine config condition world
  rw [← ends] at timetable
  rw [← ticks] at clock
  rw [← asks] at calls
  refine ⟨condition.bound config, ended, starts, ?_, timetable, clock, calls, ?_⟩
  · cases condition <;> rfl
  · intro prompt elapsed
    rw [elapsed] at timetable
    exact timetable.length_of_prompt prompt positive

namespace Script

/-- An engine that takes 30 milliseconds to look for a selector. -/
def unhurried : Engine ScriptedPage :=
  engine { latency := [("selector_exists", 30)], faults := [], effects := [], closes := true }

/-- A page on which the selector comes up for the third probe. -/
def latecomer : World ScriptedPage :=
  .initial { page := Page.ofFacts [.selectorAfter "#late" 2], counts := [], captures := [] }

/-- The third probe begins after 200 milliseconds, and its answer is in time if there are just 230
of them. -/
theorem latecomer_timely :
    let config : Config := { Config.default with timeoutMs := 230, pollIntervalMs := 70 }
    let (ending, after) := latecomer.await unhurried config (.selector "#late")
    0 < config.pollIntervalMs ∧ ending = .met ∧ after.clock = 230 ∧
      ∃ bound ended starts, bound = 230 ∧
        (unhurried.course (.selector "#late") latecomer.state).Timetable 70 bound ending ended
          starts ∧
        after.clock = latecomer.clock + ended ∧
        after.calls.toList =
          latecomer.calls.toList ++
            starts.map (fun start => (latecomer.clock + start, .selectorExists "#late")) ∧
        ((∀ j, (unhurried.course (.selector "#late") latecomer.state).latency j = some 0) →
          ending = .elapsed → starts.length = bound / 70 + 1) :=
  ⟨by decide, rfl, rfl, World.await_timely unhurried
    { Config.default with timeoutMs := 230, pollIntervalMs := 70 } (.selector "#late") latecomer
    (by decide)⟩

end Script

end Rehearsal

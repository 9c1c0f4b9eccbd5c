import Rehearsal.Proofs.Run.History
import Rehearsal.Run.Wait

/-!
One probe of a wait.

A probe that is not answered by the deadline ends the polling there; an answer ends it at once,
unless it is in vain and leaves time for another probe.
-/

namespace Rehearsal

namespace World

variable {σ : Type}

/-- A call is answered by a deadline. -/
structure Answers (engine : Engine σ) (call : Call) (deadline : Nat)
    (reply : Except EngineError call.Reply) (world after : World σ) : Prop where
  called : world.call engine call = (reply, after)
  heard : engine.silent call (engine.accept call world.state) = false
  timely : after.clock ≤ deadline

/-- What becomes of the polling by its next probe. -/
inductive Probes (engine : Engine σ) (condition : Condition) (interval deadline fuel : Nat)
    (world : World σ) : WaitEnd × World σ → Prop where
  | late :
      engine.silent condition.probe (engine.accept condition.probe world.state) = true ∨
        deadline < world.clock +
          engine.delay condition.probe (engine.accept condition.probe world.state) →
      Probes engine condition interval deadline fuel world
        (.elapsed, { world.begin engine condition.probe with clock := deadline })
  | failed {error : EngineError} {after : World σ} :
      Answers engine condition.probe deadline (.error error) world after →
      Probes engine condition interval deadline fuel world (.failed error, after)
  | met {found : condition.probe.Reply} {after : World σ} :
      Answers engine condition.probe deadline (.ok found) world after →
      condition.holds found = true →
      Probes engine condition interval deadline fuel world (.met, after)
  | elapsed {found : condition.probe.Reply} {after : World σ} :
      Answers engine condition.probe deadline (.ok found) world after →
      condition.holds found = false → deadline < after.clock + interval →
      Probes engine condition interval deadline fuel world
        (.elapsed, { after with clock := deadline })
  | again {found : condition.probe.Reply} {after : World σ} :
      Answers engine condition.probe deadline (.ok found) world after →
      condition.holds found = false → after.clock + interval ≤ deadline →
      Probes engine condition interval deadline fuel world
        (poll engine condition interval deadline fuel
          { after with clock := after.clock + interval })

section

variable {engine : Engine σ} {call : Call} {deadline : Nat}
  {reply : Except EngineError call.Reply} {world after : World σ}

theorem Answers.clock (answers : Answers engine call deadline reply world after) :
    after.clock = world.clock + engine.delay call (engine.accept call world.state) := by
  have settled : (world.call engine call).2.clock =
      world.clock + engine.delay call (engine.accept call world.state) := rfl
  rwa [answers.called] at settled

theorem Answers.calls (answers : Answers engine call deadline reply world after) :
    after.calls.toList = world.calls.toList ++ [(world.clock, call)] := by
  have begun : (world.call engine call).2.calls.toList =
      world.calls.toList ++ [(world.clock, call)] := by
    simp [World.call, complete, begin]
  rwa [answers.called] at begun

theorem Answers.reply_eq (answers : Answers engine call deadline reply world after) :
    (engine.answer call (engine.accept call world.state)).1 = reply := by
  have replied : (world.call engine call).1 =
      (engine.answer call (engine.accept call world.state)).1 := rfl
  rw [answers.called] at replied
  exact replied.symm

theorem Answers.state (answers : Answers engine call deadline reply world after) :
    after.state = (engine.answer call (engine.accept call world.state)).2 := by
  have changed : (world.call engine call).2.state =
      (engine.answer call (engine.accept call world.state)).2 := rfl
  rwa [answers.called] at changed

theorem Answers.undergoes (answers : Answers engine call deadline reply world after) :
    world.Undergoes engine
      (.answered call (engine.delay call (engine.accept call world.state)) reply) after := by
  have answered : world.Undergoes engine
      (.answered call (engine.delay call (engine.accept call world.state))
        (world.call engine call).1) (world.call engine call).2 := .answered world call
  rwa [answers.called] at answered

/-- There is as much time with a later deadline. -/
theorem Answers.later {later : Nat} (answers : Answers engine call deadline reply world after)
    (le : deadline ≤ later) : Answers engine call later reply world after :=
  ⟨answers.called, answers.heard, Nat.le_trans answers.timely le⟩

end

section

variable {engine : Engine σ} {condition : Condition} {interval deadline fuel : Nat}
  {world after : World σ}

/-- A probe that is not answered by the deadline ends the polling. -/
theorem poll_of_late
    (late : engine.silent condition.probe (engine.accept condition.probe world.state) = true ∨
      deadline < world.clock +
        engine.delay condition.probe (engine.accept condition.probe world.state)) :
    world.poll engine condition interval deadline (fuel + 1) =
      (.elapsed, { world.begin engine condition.probe with clock := deadline }) := by
  have ended : (engine.silent condition.probe (world.begin engine condition.probe).state ||
      decide (deadline < (world.begin engine condition.probe).clock +
        engine.delay condition.probe (world.begin engine condition.probe).state)) = true := by
    rw [Bool.or_eq_true, decide_eq_true_eq]
    exact late
  simp only [poll, if_pos ended]

/-- How the polling goes on behind an answer. -/
theorem poll_of_answers {reply : Except EngineError condition.probe.Reply}
    (answers : Answers engine condition.probe deadline reply world after) :
    world.poll engine condition interval deadline (fuel + 1) =
      match reply with
      | .error error => (.failed error, after)
      | .ok found =>
          if condition.holds found then (.met, after)
          else if deadline < after.clock + interval then
            (.elapsed, { after with clock := deadline })
          else
            poll engine condition interval deadline fuel
              { after with clock := after.clock + interval } := by
  have called := answers.called
  have timely := answers.timely
  rw [answers.clock] at timely
  unfold World.call at called
  have inTime : ¬(engine.silent condition.probe (world.begin engine condition.probe).state ||
      decide (deadline < (world.begin engine condition.probe).clock +
        engine.delay condition.probe (world.begin engine condition.probe).state)) = true := by
    simp [begin, answers.heard, Nat.not_lt.mpr timely]
  simp only [poll, if_neg inTime, called]
  cases reply <;> rfl

end

/-- Polling begins with a probe. -/
theorem poll_probes (engine : Engine σ) (condition : Condition) (interval deadline fuel : Nat)
    (world : World σ) :
    world.Probes engine condition interval deadline fuel
      (world.poll engine condition interval deadline (fuel + 1)) := by
  by_cases late :
      engine.silent condition.probe (engine.accept condition.probe world.state) = true ∨
        deadline < world.clock +
          engine.delay condition.probe (engine.accept condition.probe world.state)
  · rw [poll_of_late late]
    exact .late late
  · rw [not_or, Bool.not_eq_true, Nat.not_lt] at late
    have answers : Answers engine condition.probe deadline
        (world.call engine condition.probe).1 world (world.call engine condition.probe).2 :=
      ⟨rfl, late.1, late.2⟩
    generalize (world.call engine condition.probe).1 = reply at answers
    rw [poll_of_answers answers]
    cases reply with
    | error error => exact .failed answers
    | ok found =>
        by_cases holds : condition.holds found = true
        · simp only [holds, if_true]
          exact .met answers holds
        · have vain := Bool.eq_false_iff.mpr holds
          simp only [vain, Bool.false_eq_true, if_false]
          split
          next late => exact .elapsed answers vain late
          next early => exact .again answers vain (Nat.le_of_not_lt early)

end World

end Rehearsal

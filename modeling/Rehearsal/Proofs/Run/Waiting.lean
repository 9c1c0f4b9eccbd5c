import Rehearsal.Proofs.Run.Probing

/-!
What comes to pass in a wait.

A wait is a row of probes, with a rest behind each that finds nothing.  It ends with the first one
that finds something or fails, or with the time that there was for it.
-/

namespace Rehearsal

/-- What comes to pass in a wait for a condition, and how the wait ends; there is a rest of
`interval` milliseconds between two probes. -/
inductive Condition.Awaits (condition : Condition) (interval : Nat) :
    List Occurrence → WaitEnd → Prop where
  | met {ms : Nat} {found : condition.probe.Reply} :
      condition.holds found = true →
      Awaits condition interval [.answered condition.probe ms (.ok found)] .met
  | failed {ms : Nat} {error : EngineError} :
      Awaits condition interval [.answered condition.probe ms (.error error)] (.failed error)
  | dropped {ms : Nat} :
      Awaits condition interval [.dropped condition.probe ms] .elapsed
  /-- There is no time left for another probe. -/
  | elapsed {ms left : Nat} {found : condition.probe.Reply} :
      condition.holds found = false → left < interval →
      Awaits condition interval
        [.answered condition.probe ms (.ok found), .rested left] .elapsed
  | again {ms : Nat} {found : condition.probe.Reply} {history : List Occurrence}
      {ending : WaitEnd} :
      condition.holds found = false → Awaits condition interval history ending →
      Awaits condition interval
        (.answered condition.probe ms (.ok found) :: .rested interval :: history) ending
  /-- Without a rest between two probes there could be probes without end in no time; what time is
  left then passes without a further one. -/
  | unrested {left : Nat} :
      interval = 0 → Awaits condition interval [.rested left] .elapsed

namespace Condition

variable {condition : Condition} {interval : Nat} {history : List Occurrence} {ending : WaitEnd}

theorem Awaits.forall_mem {Allowed : Occurrence → Prop}
    (awaits : condition.Awaits interval history ending)
    (answered : ∀ ms reply, Allowed (.answered condition.probe ms reply))
    (dropped : ∀ ms, Allowed (.dropped condition.probe ms))
    (rested : ∀ ms, Allowed (.rested ms)) : ∀ occurrence ∈ history, Allowed occurrence := by
  induction awaits with
  | met | failed => exact List.forall_mem_singleton.mpr (answered _ _)
  | dropped => exact List.forall_mem_singleton.mpr (dropped _)
  | unrested => exact List.forall_mem_singleton.mpr (rested _)
  | elapsed =>
      exact List.forall_mem_cons.mpr ⟨answered _ _, List.forall_mem_singleton.mpr (rested _)⟩
  | again _ _ inductionHypothesis =>
      exact List.forall_mem_cons.mpr
        ⟨answered _ _, List.forall_mem_cons.mpr ⟨rested _, inductionHypothesis⟩⟩

theorem Awaits.calls (awaits : condition.Awaits interval history ending) :
    ∀ call ∈ history.filterMap Occurrence.call?, call = condition.probe :=
  List.forall_mem_filterMap.mpr (awaits.forall_mem (by simp) (by simp) (by simp))

theorem Awaits.events (awaits : condition.Awaits interval history ending) :
    history.filterMap Occurrence.event? = [] :=
  List.filterMap_eq_nil_iff.mpr
    (awaits.forall_mem (fun _ _ => rfl) (fun _ => rfl) fun _ => rfl)

theorem Awaits.signals (awaits : condition.Awaits interval history ending) :
    history.filterMap Occurrence.signal? = [] := by
  rw [filterMap_signal?, awaits.events, List.filterMap_nil]

theorem Awaits.notes (awaits : condition.Awaits interval history ending) :
    history.filterMap Occurrence.note? = [] :=
  List.filterMap_eq_nil_iff.mpr
    (awaits.forall_mem (fun _ _ => rfl) (fun _ => rfl) fun _ => rfl)

/-- What comes to pass tells where a wait ends, and how. -/
theorem Awaits.unique {other rest others : List Occurrence} {another : WaitEnd}
    (awaits : condition.Awaits interval history ending)
    (again : condition.Awaits interval other another)
    (same : history ++ rest = other ++ others) :
    history = other ∧ ending = another ∧ rest = others := by
  induction awaits generalizing other another with
  | met | failed | dropped | unrested =>
      cases again <;> simp_all
  | elapsed fails early =>
      -- The rest before the end is shorter than the one between two probes.
      cases again with
      | again =>
          simp at same
          omega
      | met | failed | dropped | elapsed | unrested => simp_all
  | again fails _ inductionHypothesis =>
      cases again with
      | again _ goesOn =>
          simp only [List.cons_append, List.cons.injEq] at same
          obtain ⟨answer, -, same⟩ := same
          obtain ⟨rfl, rfl, rfl⟩ := inductionHypothesis goesOn same
          exact ⟨by rw [answer], rfl, rfl⟩
      | elapsed _ early =>
          simp at same
          omega
      | met | failed | dropped | unrested => simp_all

end Condition

namespace World

variable {σ : Type}

theorem undergoes_dropped_until (engine : Engine σ) (call : Call) {deadline : Nat}
    {world : World σ} (inTime : world.clock ≤ deadline)
    (late : engine.silent call (engine.accept call world.state) = true ∨
      deadline < world.clock + engine.delay call (engine.accept call world.state)) :
    world.Undergoes engine (.dropped call (deadline - world.clock))
      { world.begin engine call with clock := deadline } := by
  have unanswered : engine.silent call (engine.accept call world.state) = true ∨
      deadline - world.clock < engine.delay call (engine.accept call world.state) := by
    rcases late with silent | slow
    · exact .inl silent
    · exact .inr (by omega)
  have dropped : world.Undergoes engine (.dropped call (deadline - world.clock))
      { world.begin engine call with clock := world.clock + (deadline - world.clock) } :=
    .dropped world call _ unanswered
  rwa [Nat.add_sub_cancel' inTime] at dropped

theorem undergoes_rested_until (engine : Engine σ) {deadline : Nat} {world : World σ}
    (inTime : world.clock ≤ deadline) :
    world.Undergoes engine (.rested (deadline - world.clock))
      { world with clock := deadline } := by
  have rested : world.Undergoes engine (.rested (deadline - world.clock))
      { world with clock := world.clock + (deadline - world.clock) } := .rested world _
  rwa [Nat.add_sub_cancel' inTime] at rested

/-- Polling is a wait as long as the fuel outlasts the time that is left, or no time is spent on
rests. -/
theorem poll_unfolds (engine : Engine σ) (condition : Condition) (interval deadline fuel : Nat)
    (world : World σ) (inTime : world.clock ≤ deadline)
    (enough : 0 < interval → deadline < world.clock + fuel) :
    ∃ history,
      condition.Awaits interval history (world.poll engine condition interval deadline fuel).1 ∧
      world.Unfolds engine history (world.poll engine condition interval deadline fuel).2 := by
  induction fuel generalizing world with
  | zero =>
      have restless : interval = 0 := by omega
      exact ⟨_, .unrested restless, (undergoes_rested_until engine inTime).unfolds⟩
  | succ fuel inductionHypothesis =>
      have probes := poll_probes engine condition interval deadline fuel world
      generalize world.poll engine condition interval deadline (fuel + 1) = polled at probes ⊢
      cases probes with
      | late late =>
          exact ⟨_, .dropped, (undergoes_dropped_until engine condition.probe inTime late).unfolds⟩
      | failed answers => exact ⟨_, .failed, answers.undergoes.unfolds⟩
      | met answers holds => exact ⟨_, .met holds, answers.undergoes.unfolds⟩
      | @elapsed found after answers vain late =>
          have timely := answers.timely
          have rested : after.Undergoes engine (.rested (deadline - after.clock))
              { after with clock := deadline } := undergoes_rested_until engine timely
          exact ⟨_, .elapsed vain (by omega), .step answers.undergoes rested.unfolds⟩
      | @again found after answers vain early =>
          have later := answers.clock
          obtain ⟨history, awaits, unfolds⟩ :=
            inductionHypothesis { after with clock := after.clock + interval } early
              (by simp only; omega)
          exact ⟨_, .again vain awaits,
            .step answers.undergoes (.step (.rested after interval) unfolds)⟩

/-- The line that is told behind a wait, if there is one. -/
def waitRemark (condition : Condition) (elapsed : Nat) : WaitEnd → List Occurrence
  | .met => [.remarked (metLine condition elapsed)]
  | _ => []

@[simp]
theorem calls_waitRemark (condition : Condition) (elapsed : Nat) (ending : WaitEnd) :
    (waitRemark condition elapsed ending).filterMap Occurrence.call? = [] := by
  cases ending <;> rfl

@[simp]
theorem events_waitRemark (condition : Condition) (elapsed : Nat) (ending : WaitEnd) :
    (waitRemark condition elapsed ending).filterMap Occurrence.event? = [] := by
  cases ending <;> rfl

/-- A wait is polling, and a line that is told behind it. -/
theorem await_unfolds (engine : Engine σ) (config : Config) (condition : Condition)
    (world : World σ) :
    ∃ history,
      condition.Awaits config.pollIntervalMs history (world.await engine config condition).1 ∧
      ∃ elapsed, world.Unfolds engine
        (history ++ waitRemark condition elapsed (world.await engine config condition).1)
        (world.await engine config condition).2 := by
  obtain ⟨history, awaits, unfolds⟩ :=
    poll_unfolds engine condition config.pollIntervalMs (world.clock + condition.bound config)
      (condition.bound config + 1) world (by omega) (by omega)
  simp only [await]
  generalize world.poll engine condition _ _ _ = polled at awaits unfolds ⊢
  obtain ⟨ending, after⟩ := polled
  cases ending with
  | met =>
      exact ⟨history, awaits, after.clock - world.clock,
        unfolds.append (Undergoes.remarked after _).unfolds⟩
  | failed | elapsed => exact ⟨history, awaits, 0, by simpa [waitRemark] using unfolds⟩

end World

end Rehearsal

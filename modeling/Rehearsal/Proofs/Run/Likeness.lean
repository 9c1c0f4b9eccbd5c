import Rehearsal.Proofs.Run.Abreast

/-!
Runs that go alike.

Nothing in a run looks at the trace.  So two worlds that differ in their traces alone stay alike
under engines that agree on the calls that are made: they go through the same history, pictures
included.
-/

namespace Rehearsal

/-- The ledgers say the same, though their traces may differ. -/
inductive Ledger.Alike : Ledger → Ledger → Prop where
  | both (events : Array Event) (passed failed timedOut : Nat) (position : String × Nat)
      (trace other : Array Trace.Line) :
      Alike ⟨events, passed, failed, timedOut, position, trace⟩
        ⟨events, passed, failed, timedOut, position, other⟩

namespace Ledger

variable {ledger other : Ledger}

theorem Alike.refl (ledger : Ledger) : ledger.Alike ledger :=
  .both _ _ _ _ _ _ _

theorem Alike.record (alike : ledger.Alike other) (event : Event) :
    (ledger.record event).Alike (other.record event) := by
  cases alike
  cases event <;> exact .both _ _ _ _ _ _ _

theorem Alike.remark (alike : ledger.Alike other) (line : Trace.Line) :
    (ledger.remark line).Alike (other.remark line) := by
  cases alike
  exact .both _ _ _ _ _ _ _

theorem Alike.enter (alike : ledger.Alike other) (scenario : String) (index : Nat) :
    (ledger.enter scenario index).Alike (other.enter scenario index) := by
  cases alike
  exact .both _ _ _ _ _ _ _

theorem Alike.writeAll (alike : ledger.Alike other) (history : List Occurrence) :
    (ledger.writeAll history).Alike (other.writeAll history) := by
  induction history generalizing ledger other with
  | nil => exact alike
  | cons occurrence rest inductionHypothesis =>
      refine inductionHypothesis ?_
      cases occurrence with
      | entered scenario index => exact alike.enter scenario index
      | recorded event => exact alike.record event
      | remarked line => exact alike.remark line
      | answered | dropped | rested | noted => exact alike

theorem Alike.close (alike : ledger.Alike other) : ledger.close.Alike other.close := by
  cases alike
  exact .both _ _ _ _ _ _ _

theorem Alike.report (alike : ledger.Alike other) (time : Nat → String) :
    ledger.report time = other.report time := by
  cases alike
  rfl

end Ledger

variable {σ : Type}

/-- The engines take all allowed calls in the same way. -/
structure Engine.Agrees (allows : Call → Prop) (engine other : Engine σ) : Prop where
  accept : ∀ call, allows call → engine.accept call = other.accept call
  delay : ∀ call, allows call → engine.delay call = other.delay call
  silent : ∀ call, allows call → engine.silent call = other.silent call
  answer : ∀ call, allows call → engine.answer call = other.answer call

theorem Engine.agrees_self (allows : Call → Prop) (engine : Engine σ) :
    engine.Agrees allows engine :=
  ⟨fun _ _ => rfl, fun _ _ => rfl, fun _ _ => rfl, fun _ _ => rfl⟩

namespace World

/-- The worlds differ at most in their traces. -/
inductive Alike : World σ → World σ → Prop where
  | both {ledger other : Ledger} (state : σ) (clock : Nat) (calls : Array (Nat × Call))
      (notebook : Notebook) :
      ledger.Alike other →
      Alike ⟨state, clock, calls, ledger, notebook⟩ ⟨state, clock, calls, other, notebook⟩

/-- The same has come of both, in worlds that are alike. -/
inductive Likewise {α : Type} : α × World σ → α × World σ → Prop where
  | both {world other : World σ} (value : α) :
      world.Alike other → Likewise (value, world) (value, other)

theorem Likewise.split {α : Type} {ending ending' : α × World σ}
    (likewise : Likewise ending ending') :
    ∃ value after after', ending = (value, after) ∧ ending' = (value, after') ∧
      after.Alike after' := by
  cases likewise with
  | both value alike => exact ⟨value, _, _, rfl, rfl, alike⟩

section

variable {engine other : Engine σ} {allows : Call → Prop} {world world' : World σ}

theorem Alike.refl (world : World σ) : world.Alike world :=
  .both _ _ _ _ (.refl world.ledger)

theorem Alike.write {f : Ledger → Ledger}
    (keeps : ∀ ledger other : Ledger, ledger.Alike other → (f ledger).Alike (f other))
    (alike : world.Alike world') : (world.write f).Alike (world'.write f) := by
  cases alike with
  | both _ _ _ _ ledgers => exact .both _ _ _ _ (keeps _ _ ledgers)

theorem Alike.state (alike : world.Alike world') : world.state = world'.state := by
  cases alike
  rfl

theorem Alike.clock (alike : world.Alike world') : world.clock = world'.clock := by
  cases alike
  rfl

theorem Alike.calls (alike : world.Alike world') : world.calls = world'.calls := by
  cases alike
  rfl

theorem Alike.notebook (alike : world.Alike world') : world.notebook = world'.notebook := by
  cases alike
  rfl

theorem Alike.ledger (alike : world.Alike world') : world.ledger.Alike world'.ledger := by
  cases alike with
  | both _ _ _ _ ledgers => exact ledgers

theorem Alike.abreast (alike : world.Alike world') : world.Abreast Eq world' :=
  ⟨alike.state, alike.clock, alike.calls, alike.notebook⟩

theorem Abreast.alike (abreast : world.Abreast Eq world')
    (ledgers : world.ledger.Alike world'.ledger) : world.Alike world' := by
  obtain ⟨state, clock, calls, ledger, notebook⟩ := world
  obtain ⟨state', clock', calls', ledger', notebook'⟩ := world'
  obtain ⟨rfl, rfl, rfl, rfl⟩ := abreast
  exact .both _ _ _ _ ledgers

/-- Worlds that are alike stay so through the same history. -/
theorem Alike.unfolds {history : List Occurrence} {after after' : World σ}
    (alike : world.Alike world') (unfolds : world.Unfolds engine history after)
    (unfolds' : world'.Unfolds other history after') (abreast : after.Abreast Eq after') :
    after.Alike after' := by
  refine abreast.alike ?_
  rw [unfolds.ledger, unfolds'.ledger]
  exact alike.ledger.writeAll history

end

end World

theorem Engine.Agrees.mirrors {allows : Call → Prop} {engine other : Engine σ}
    (agrees : engine.Agrees allows other) : engine.Mirrors allows allows Eq other where
  accept := by
    rintro call allowed state _ rfl
    rw [agrees.accept call allowed]
  delay := by
    rintro call allowed state _ rfl
    rw [agrees.delay call allowed]
  silent := by
    rintro call allowed state _ rfl
    rw [agrees.silent call allowed]
  answer := by
    rintro call allowed state _ rfl
    rw [agrees.answer call allowed]
  reply := by
    rintro call allowed state _ rfl
    rw [agrees.answer call allowed]
  allowed _ := id

/-- Where the engines agree on a picture, a step leaves the same behind. -/
theorem Scheduled.Beside.eq {tells : Call → Prop} {config : Config} {item : Scheduled}
    {history history' : List Occurrence} (pictures : ∀ path, tells (.capture path))
    (beside : item.Beside tells config history history') : history = history' := by
  cases beside with
  | banner => rfl
  | step _ told => rw [told (pictures _)]

theorem Scheduled.flatMap_beside {tells : Call → Prop} {config : Config}
    {pipeline : List Scheduled} {pairs : List (List Occurrence × List Occurrence)}
    (pictures : ∀ path, tells (.capture path))
    (beside : List.Forall₂ (fun item pair => item.Beside tells config pair.1 pair.2) pipeline
      pairs) :
    pairs.flatMap Prod.fst = pairs.flatMap Prod.snd := by
  induction beside with
  | nil => rfl
  | cons here _ inductionHypothesis =>
      rw [List.flatMap_cons, List.flatMap_cons, here.eq pictures, inductionHypothesis]

namespace World

variable {engine other : Engine σ} {allows : Call → Prop} {world world' : World σ}

theorem Alike.call (agrees : engine.Agrees allows other) {call : Call} (allowed : allows call)
    (alike : world.Alike world') : Likewise (world.call engine call) (world'.call other call) := by
  obtain ⟨reply, history, after, after', ended, ended', front, front', abreast⟩ :=
    (alike.abreast.call agrees.mirrors allowed).split
  rw [ended, ended']
  exact .both reply (alike.unfolds front front' abreast)

/-- Steps that keep to the calls on which the engines agree are run alike. -/
theorem Alike.runSteps (agrees : engine.Agrees allows other)
    (pictures : ∀ path, allows (.capture path)) (config : Config) {pipeline : List Scheduled}
    (within : ∀ item ∈ pipeline, item.step.Within allows) (alike : world.Alike world') :
    (world.runSteps engine config pipeline).Alike (world'.runSteps other config pipeline) := by
  obtain ⟨pairs, beside, -, gone, gone', abreast⟩ :=
    alike.abreast.runSteps agrees.mirrors pictures config fun item membership _ =>
      within item membership
  rw [Scheduled.flatMap_beside pictures beside] at gone
  exact alike.unfolds gone gone' abreast

end World

end Rehearsal

import Rehearsal.Document.Plan
import Rehearsal.Engine.Page
import Rehearsal.Proofs.Document.Steps
import Rehearsal.Proofs.Run.Picture
import Rehearsal.Proofs.Run.Running

/-!
The dry run against the run.

The rows of a plan foretell a run in which anything may go wrong: each row says which picture will
be asked for at the end of its step, and the evidence of the report is made of the pictures that
were taken.
-/

namespace Rehearsal

namespace PlanRow

/-- What comes to pass in a step keeps to the row that the plan has for it. -/
inductive Foretells (row : PlanRow) (history : List Occurrence) : Prop where
  | banner :
      row.kind = "banner" → row.evidence = none →
      history.filterMap Occurrence.call? = [] → Foretells row history
  | step {path : String} {calls : List Call} :
      row.kind ≠ "banner" → row.evidence = some path →
      history.filterMap Occurrence.call? = calls ++ [.capture path] →
      (∀ call ∈ calls, call.Ordinary) → Foretells row history

/-- The evidence of a row, if the engine has taken the picture. -/
def proof? (row : PlanRow) (history : List Occurrence) : Option Evidence :=
  match row.evidence with
  | some path =>
      if history.any (Occurrence.takes path) then
        some { scenario := row.scenario, index := row.index, message := row.message, path }
      else none
  | none => none

end PlanRow

/-- The evidence of all rows of a plan, in their order. -/
def Plan.proofs (plan : Plan) (histories : List (List Occurrence)) : List Evidence :=
  (plan.rows.zip histories).filterMap fun (row, history) => row.proof? history

theorem Strategy.kind_eq_banner_iff {strategy : Strategy} :
    strategy.kind = "banner" ↔ strategy = .banner := by
  constructor
  · intro named
    cases strategy with
    | banner => rfl
    | wait condition => cases condition <;> simp [kind, Condition.kind] at named
    | immediate => simp [kind] at named
  · rintro rfl
    rfl

namespace Scheduled

variable {config : Config} {item : Scheduled} {history : List Occurrence}

theorem planRow_of_banner (banner : item.step.strategy = .banner) :
    item.planRow config =
      { scenario := item.context.scenario
        index := item.context.index
        kind := "banner"
        message := "Scenario: " ++ item.context.scenario
        evidence := none } := by
  unfold planRow
  rw [banner]
  rfl

theorem planRow_of_ne_banner (other : item.step.strategy ≠ .banner) :
    item.planRow config =
      { scenario := item.context.scenario
        index := item.context.index
        kind := item.step.strategy.kind
        message := item.step.message
        evidence := some (item.context.evidence config item.step.message).path } := by
  unfold planRow
  split
  next banner => exact (other banner).elim
  next => rfl

/-- A built-in step keeps to its row and leaves the evidence of the row behind. -/
theorem Unrolls.foretold (builtIn : item.step.BuiltIn) (unrolls : item.Unrolls config history) :
    (item.planRow config).Foretells history ∧
      (history.filterMap Occurrence.event?).filterMap Event.evidence? =
        ((item.planRow config).proof? history).toList := by
  obtain ⟨outcome, unrolls⟩ := unrolls
  by_cases banner : item.step.strategy = .banner
  · rw [planRow_of_banner banner]
    cases unrolls with
    | banner => exact ⟨.banner rfl rfl rfl, rfl⟩
    | step other => exact (other banner).elim
  · rw [planRow_of_ne_banner banner]
    obtain found | ⟨action, builtIn, does⟩ := builtIn
    · exact (banner found).elim
    obtain ⟨before, picture, rfl, pictured, ordinary, unseen⟩ :=
      unrolls.pictured does builtIn banner
    have calls : (before ++ picture).filterMap Occurrence.call? =
        before.filterMap Occurrence.call? ++
          [.capture (item.context.evidence config item.step.message).path] := by
      rw [List.filterMap_append, pictured.calls]
    constructor
    · refine .step ?_ rfl calls ordinary
      exact fun named => banner (Strategy.kind_eq_banner_iff.mp named)
    · -- No picture is taken before the last one, so it is the one that the row asks about.
      rw [List.filterMap_append, List.filterMap_append, unseen, pictured.shown,
        List.nil_append]
      simp only [PlanRow.proof?, List.any_append, takes_eq_false_of_ordinary ordinary,
        Bool.false_or]
      split <;> rfl

end Scheduled

theorem evidence_flatten {rows : List PlanRow} {histories : List (List Occurrence)}
    (each : List.Forall₂ (fun row history =>
      (history.filterMap Occurrence.event?).filterMap Event.evidence? =
        (row.proof? history).toList) rows histories) :
    (histories.flatten.filterMap Occurrence.event?).filterMap Event.evidence? =
      (rows.zip histories).filterMap fun (row, history) => row.proof? history := by
  induction each with
  | nil => rfl
  | @cons row history rows histories here _ inductionHypothesis =>
      rw [List.flatten_cons, List.filterMap_append, List.filterMap_append, here,
        inductionHypothesis, List.zip_cons_cons, List.filterMap_cons]
      cases found : row.proof? history <;> simp [found]

theorem Document.builtIn_of_install {document : Document} {suite : Suite}
    (installed : document.install .empty = (.ok (), suite)) :
    ∀ item ∈ suite.pipeline, item.step.BuiltIn :=
  (installAll_builtIn (Suite.empty_only Step.BuiltIn) installed).scheduled

/-- A plan foretells every run of its document under the same settings: the run comes to its end;
its calls are those of the rows, one row after the other, between the start and the farewell; and
the evidence in its report is what the rows leave behind. -/
theorem Document.plan_foretells_run {σ : Type} (engine : Engine σ) (config : Config)
    (document : Document) (state : σ) (clock : Nat) (notebook : Notebook) (time : Nat → String)
    {plan : Plan} (planned : document.plan config = .ok plan)
    (starts : engine.Starts document.entryUrl state) :
    ∃ suite after histories,
      document.install .empty = (.ok (), suite) ∧
      World.run engine config document.entryUrl suite (.fresh state clock notebook) =
        (.ok (), after) ∧
      World.Runs engine config document.entryUrl suite.pipeline histories
        (.fresh state clock notebook) after ∧
      after.calls.toList.map Prod.snd =
        .start document.entryUrl ::
          (histories.flatten.filterMap Occurrence.call? ++ engine.farewell) ∧
      List.Forall₂ PlanRow.Foretells plan.rows histories ∧
      (after.report time).evidence = plan.proofs histories := by
  unfold Document.plan at planned
  split at planned
  next suite installed =>
    cases planned
    have ready : engine.Starts document.entryUrl (World.fresh state clock notebook).state := starts
    obtain ⟨after, histories, run, runs⟩ := World.run_unfolds engine config suite ready
    have rows : List.Forall₂ (fun item history =>
        (item.planRow config).Foretells history ∧
          (history.filterMap Occurrence.event?).filterMap Event.evidence? =
            ((item.planRow config).proof? history).toList) suite.pipeline histories := by
      have built := (List.forall₂_and_left _ _).mpr
        ⟨document.builtIn_of_install installed, runs.steps⟩
      exact built.imp fun item history ⟨builtIn, unrolls⟩ => unrolls.foretold builtIn
    refine ⟨suite, after, histories, installed, run, runs, ?_, ?_, ?_⟩
    · rw [runs.comprises.calls]
      rfl
    · exact List.forall₂_map_left_iff.mpr (rows.imp fun _ _ row => row.1)
    · obtain ⟨passes, failures, timeouts, events⟩ := runs.comprises.events
      have each : List.Forall₂ (fun row history =>
          (history.filterMap Occurrence.event?).filterMap Event.evidence? =
            (row.proof? history).toList) (suite.plan document.entryUrl config).rows histories :=
        List.forall₂_map_left_iff.mpr (rows.imp fun _ _ row => row.2)
      rw [World.report, Report.evidence, Ledger.events_report, events, List.filterMap_append,
        List.filterMap_append, evidence_flatten each]
      simp [World.fresh, World.initial, Ledger.empty, Event.evidence?, Plan.proofs, Suite.plan]
  next => cases planned

namespace Document

/-- A shop that is entered, and entered once more before it is left. -/
def shopping : Document :=
  { entryUrl := "https://shop.example"
    scenarios := [
      { name := "Entering"
        dependsOn := []
        steps := [{ voice := .when, action := .goTo "the shop" "/shop" }] },
      { name := "Leaving"
        dependsOn := ["Entering"]
        steps := [{ voice := .and, action := .see "thanks" "Thank you" }] }] }

def shoppingPlan : Plan :=
  { entryUrl := "https://shop.example"
    timeoutMs := 5000
    rows := [
      ⟨"Entering", 0, "banner", "Scenario: Entering", none⟩,
      ⟨"Entering", 1, "no_wait", "When I go to the shop",
        some "./capture/Entering/1-When I go to the shop.png"⟩,
      ⟨"Entering", 0, "banner", "Scenario: Entering", none⟩,
      ⟨"Entering", 1, "no_wait", "When I go to the shop",
        some "./capture/Entering/1-When I go to the shop.png"⟩,
      ⟨"Leaving", 0, "banner", "Scenario: Leaving", none⟩,
      ⟨"Leaving", 1, "wait_for_text", "And I see thanks",
        some "./capture/Leaving/1-And I see thanks.png"⟩] }

/-- On a page without anything on it the last step of the shopping runs out of time; the plan holds
all the same. -/
theorem shopping_keeps_to_plan :
    shopping.plan .default = .ok shoppingPlan ∧
      ∃ suite after histories,
        shopping.install .empty = (.ok (), suite) ∧
        World.run Page.engine .default "https://shop.example" suite
            (.fresh Page.blank 0 .empty) = (.ok (), after) ∧
        World.Runs Page.engine .default "https://shop.example" suite.pipeline histories
          (.fresh Page.blank 0 .empty) after ∧
        after.calls.toList.map Prod.snd =
          .start "https://shop.example" ::
            (histories.flatten.filterMap Occurrence.call? ++ [.finish]) ∧
        List.Forall₂ PlanRow.Foretells shoppingPlan.rows histories ∧
        (after.report fun _ => "12:00:00").evidence = shoppingPlan.proofs histories :=
  ⟨rfl, plan_foretells_run Page.engine .default shopping Page.blank 0 .empty
    (fun _ => "12:00:00") rfl rfl⟩

end Document

end Rehearsal

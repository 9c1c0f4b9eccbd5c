import Rehearsal.Proofs.Run.Bracket
import Rehearsal.Proofs.Run.Timeline
import Rehearsal.Proofs.Step.Noting

/-!
The notebook of a run.

All steps share one notebook, and a run adds to it what its steps note down, one note behind the
other; under each name the last note counts.
-/

namespace Rehearsal

namespace World

variable {σ : Type}

theorem notebook_of_refuses {engine : Engine σ} {entryUrl : String} {error : EngineError}
    {world : World σ} (refuses : engine.Refuses entryUrl error world.state) (config : Config)
    (suite : Suite) :
    (world.run engine config entryUrl suite).2.notebook = world.notebook := by
  have refusing : engine.Refuses entryUrl error (world.tell suite.trace).state := refuses
  simp only [run, start_of_refuses refusing]
  rfl

/-- A run of built-in steps leaves behind in the notebook what has been in it before and what its
steps have noted down; a run that does not come off leaves it as it was. -/
theorem run_notes (engine : Engine σ) (config : Config) (entryUrl : String) (suite : Suite)
    (world : World σ) (builtIn : ∀ item ∈ suite.pipeline, item.step.BuiltIn) :
    (∀ error, engine.Refuses entryUrl error world.state →
      (world.run engine config entryUrl suite).2.notebook = world.notebook) ∧
    (engine.Starts entryUrl world.state → ∃ after histories notes,
      world.run engine config entryUrl suite = (.ok (), after) ∧
      Comprises engine entryUrl histories world after ∧
      notes = (histories.flatMap fun history => history.filterMap Occurrence.note?) ∧
      List.Forall₂ (Scheduled.Notes config) suite.pipeline histories ∧
      List.Forall₂ Scheduled.Attests suite.pipeline histories ∧
      after.notebook = world.notebook.recordAll notes ∧
      ∀ name, after.notebook.entry? name =
        (notes.reverse.lookup name).or (world.notebook.entry? name)) := by
  refine ⟨fun error refuses => notebook_of_refuses refuses config suite, ?_⟩
  intro starts
  obtain ⟨after, histories, ran, unroll, comprises⟩ := run_unfolds engine config suite starts
  have built := (List.forall₂_and_left _ _).mpr ⟨builtIn, unroll⟩
  have notes : List.Forall₂ (Scheduled.Notes config) suite.pipeline histories :=
    built.imp fun item history ⟨builtIn, unrolls⟩ => unrolls.notes builtIn
  refine ⟨after, histories, _, ran, comprises, rfl, notes, ?_, comprises.notebook, ?_⟩
  · exact notes.imp fun item history notes => notes.attests
  · intro name
    rw [comprises.notebook, Notebook.entry?_recordAll]

end World

namespace Suite

/-- A shop in which the price is shown. -/
def shop : Page := .ofFacts [.propertyOf "#price" "title" "12", .selector "#buy"]

/-- A price from another visit, and a greeting that nobody touches. -/
def jotted : Notebook := ⟨[("greeting", none), ("the price", some "10")]⟩

/-- The new price takes the place of the old one. -/
theorem visiting_noted :
    (∀ item ∈ visiting.pipeline, item.step.BuiltIn) ∧
      Page.engine.Starts "https://shop.example" shop ∧
      ∃ after histories notes,
        World.run Page.engine .default "https://shop.example" visiting (.fresh shop 0 jotted) =
          (.ok (), after) ∧
        List.Forall₂ (Scheduled.Notes .default) visiting.pipeline histories ∧
        notes = (histories.flatMap fun history => history.filterMap Occurrence.note?) ∧
        after.notebook = jotted.recordAll notes ∧
        after.notebook.entries = [("greeting", none), ("the price", some "12")] := by
  refine ⟨visiting_builtIn, rfl, ?_⟩
  obtain ⟨after, histories, notes, ran, -, written, each, -, recorded, -⟩ :=
    (World.run_notes Page.engine .default "https://shop.example" visiting (.fresh shop 0 jotted)
      visiting_builtIn).2 rfl
  have held : (World.run Page.engine .default "https://shop.example" visiting
      (.fresh shop 0 jotted)).2.notebook.entries =
        [("greeting", none), ("the price", some "12")] := by decide +kernel
  rw [ran] at held
  exact ⟨after, histories, notes, ran, each, written, recorded, held⟩

end Suite

end Rehearsal

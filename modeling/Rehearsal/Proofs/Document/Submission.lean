import Rehearsal.Engine.Page
import Rehearsal.Proofs.Document.Growth
import Rehearsal.Proofs.Document.Written
import Rehearsal.Proofs.Json.Narrow
import Rehearsal.Proofs.Run.Bracket
import Rehearsal.Proofs.Step.Filling

/-!
Forms from their JSON text to the engine.

What is written in a document about the submission of a form is read with the step, kept in it, and
handed to the engine when the form is filled in.
-/

namespace Rehearsal

namespace Document

/-- The step of a document that fills in a form is written in its text, and so is what becomes of
the form. -/
theorem filling_written {text : String} {document : Document} (read : ofJson text = .ok document)
    {i j : Nat} {scenario : ScenarioSpec} {voice : Voice} {message selector : String}
    {fields : FormData} {autoSubmit : Option Json}
    (there : document.scenarios[i]? = some scenario)
    (here : scenario.steps[j]? =
      some { voice, action := .fill message selector fields autoSubmit }) :
    ∃ node, stepNode? i j (Json.Reader.read text).1 = some node ∧
      Submission node (Action.submits autoSubmit) := by
  obtain ⟨written, found, made⟩ := scenario_written (Json.decode_eq_ok (mapError_eq_ok read)) there
  obtain ⟨node, inside, step⟩ := step_written made here
  refine ⟨node, ?_, StepSpec.submission_of_ofNode (by decide) step⟩
  rw [stepNode?, found]
  exact inside

variable {σ : Type}

/-- A form is submitted as the text of its document says, if it is filled in at all: each step that
fills in a form does so once if the selector of the form comes up, and else not at all. -/
theorem submitted_as_written (engine : Engine σ) (config : Config) {text : String}
    {document : Document} {suite : Suite} (state : σ) (clock : Nat) (notebook : Notebook)
    (read : ofJson text = .ok document)
    (installed : document.install .empty = (.ok (), suite))
    (starts : engine.Starts document.entryUrl state) :
    ∃ after histories,
      World.run engine config document.entryUrl suite (.fresh state clock notebook) =
        (.ok (), after) ∧
      World.Runs engine config document.entryUrl suite.pipeline histories
        (.fresh state clock notebook) after ∧
      ∀ i j scenario voice message selector fields autoSubmit,
        document.scenarios[i]? = some scenario →
        scenario.steps[j]? =
          some { voice, action := .fill message selector fields autoSubmit } →
        ∃ node submit step,
          stepNode? i j (Json.Reader.read text).1 = some node ∧ Submission node submit ∧
          step = (Action.fill message selector fields (some submit)).voiced voice ∧
          (∃ item ∈ suite.pipeline, item.step = step ∧
            item.context =
              { voice := some voice, scenario := scenario.name, index := j + 1 }) ∧
          List.Forall₂
            (fun item history => item.step = step →
              fillings history =
                if history.any (Occurrence.shows selector) then [.fill selector fields submit]
                else [])
            suite.pipeline histories := by
  have ready : engine.Starts document.entryUrl (World.fresh state clock notebook).state := starts
  obtain ⟨after, histories, ran, runs⟩ := World.run_unfolds engine config suite ready
  refine ⟨after, histories, ran, runs, ?_⟩
  intro i j scenario voice message selector fields autoSubmit there here
  obtain ⟨node, written, submission⟩ := filling_written read there here
  obtain ⟨made, makes, scheduled⟩ := install_schedules installed there here
  cases makes
  refine ⟨node, _, _, written, submission, rfl, scheduled, runs.steps.imp ?_⟩
  rintro item history ⟨outcome, unrolls⟩ same
  rw [same] at unrolls
  exact unrolls.fillings (Action.voiced_does voice _)

/-- Two forms: of the first it is said that it is submitted, but not by a truth value; of the other
nothing but null is said. -/
def payingText : String :=
  "\x7b\"entry_url\":\"/\",\"scenarios\":[\x7b\"name\":\"Pay\",\"steps\":[" ++
    "\x7b\"voice\":\"when\",\"action\":\"fill\",\"message\":\"in\",\"selector\":\"#a\"," ++
    "\"auto_submit\":\"yes\"\x7d,\x7b\"voice\":\"and\",\"action\":\"fill\",\"message\":\"in\"," ++
    "\"selector\":\"#a\",\"auto_submit\":null\x7d]\x7d]\x7d"

def formNode (voice : String) (flag : Source.Atom) : Source.Node :=
  let word (text : String) : Source.Node := .ofAtom (.text text)
  .map [
    (word "voice", word voice), (word "action", word "fill"), (word "message", word "in"),
    (word "selector", word "#a"), (word "auto_submit", .ofAtom flag)]

def payingNode : Source.Node :=
  let word (text : String) : Source.Node := .ofAtom (.text text)
  .map [
    (word "entry_url", word "/"),
    (word "scenarios", .list [
      .map [
        (word "name", word "Pay"),
        (word "steps", .list [formNode "when" (.text "yes"), formNode "and" .null])]])]

def paying : Document :=
  { entryUrl := "/"
    scenarios := [
      { name := "Pay"
        dependsOn := []
        steps := [
          { voice := .when, action := .fill "in" "#a" .empty (some (.text "yes")) },
          { voice := .and, action := .fill "in" "#a" .empty none }] }] }

def till : Page := .ofFacts [.selector "#a"]

theorem read_payingText : Json.Reader.read payingText = (payingNode, true) := by cbv

theorem ofJson_payingText : ofJson payingText = .ok paying := by
  rw [ofJson, Json.decode, read_payingText]
  rfl

/-- The first form is filled in and not submitted. -/
theorem paying_submitted :
    ofJson payingText = .ok paying ∧
      (paying.install .empty).1 = .ok () ∧ Page.engine.Starts "/" till ∧
      ∃ after histories node submit,
        World.run Page.engine .default "/" (paying.install .empty).2 (.fresh till 0 .empty) =
          (.ok (), after) ∧
        stepNode? 0 0 (Json.Reader.read payingText).1 = some node ∧ Submission node submit ∧
        List.Forall₂
          (fun item history =>
            item.step = (Action.fill "in" "#a" .empty (some submit)).voiced .when →
              fillings history =
                if history.any (Occurrence.shows "#a") then [.fill "#a" .empty submit]
                else [])
          (paying.install .empty).2.pipeline histories := by
  refine ⟨ofJson_payingText, rfl, rfl, ?_⟩
  obtain ⟨after, histories, ran, -, forms⟩ :=
    submitted_as_written Page.engine .default till 0 .empty ofJson_payingText rfl rfl
  obtain ⟨node, submit, step, written, submission, rfl, -, filled⟩ :=
    forms 0 0 _ .when "in" "#a" .empty _ rfl rfl
  exact ⟨after, histories, node, submit, ran, written, submission, filled⟩

/-- The other form is submitted, though a value other than `true` is written. -/
theorem paying_null_submitted :
    ofJson payingText = .ok paying ∧
      ((stepNode? 0 1 (Json.Reader.read payingText).1).bind (Source.Node.under? "auto_submit")).map
          Json.ofNode =
        some (.ok .null) ∧
      Action.submits (some .null) = false ∧
      (World.run Page.engine .default "/" (paying.install .empty).2 (.fresh till 0 .empty)).1 =
        .ok () ∧
      ((World.run Page.engine .default "/" (paying.install .empty).2
            (.fresh till 0 .empty)).2.calls.toList.map Prod.snd).filter Call.isFill =
        [.fill "#a" .empty false, .fill "#a" .empty true] := by
  refine ⟨ofJson_payingText, ?_, rfl, ?_, by decide +kernel⟩
  · rw [read_payingText]
    rfl
  · have starts : Page.engine.Starts "/" (World.fresh till 0 .empty).state := rfl
    rw [World.run_of_starts starts]

end Document

end Rehearsal

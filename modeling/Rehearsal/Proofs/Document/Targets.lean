import Rehearsal.Proofs.Document.Growth
import Rehearsal.Proofs.Document.Prediction
import Rehearsal.Proofs.Step.Within

/-!
What the steps of a document look for.

A step that looks for a blank text, or under a blank selector, means nothing.  Whoever looks a
document through goes by what its actions say, and whoever runs it goes by the calls of its steps;
both come to the same targets.
-/

namespace Rehearsal

/-- The texts by which a call finds what it is about. -/
def Call.targets : Call → List String
  | .selectorExists selector | .isVisible selector | .click selector | .fetchText selector =>
      [selector]
  | .fill selector _ _ => [selector]
  | .textPresent text => [text]
  | .clickLabel label _ => [label]
  | .visit url => [url]
  | .attributeOf selector name => [selector, name]
  | _ => []

/-- None of the targets of the call is blank. -/
def Call.Aimed (call : Call) : Prop :=
  ∀ target ∈ call.targets, Text.isBlank target = false

namespace ActionSpec

/-- The texts of an action that must mean something. -/
def targets : ActionSpec → List String
  | .am _ selector | .click _ selector | .find _ selector | .findTheVisible _ selector
  | .cannotFindThe _ selector => [selector]
  | .fill _ selector _ _ => [selector]
  | .seeTheValueOf _ selector _ => [selector]
  | .see _ text | .canSee _ text | .shouldNotSee _ text => [text]
  | .clickTheLabel label => [label]
  | .goTo _ url => [url]
  | .noteDown _ selector property => [selector, property]
  | .reached .. => []

end ActionSpec

theorem exists_error_foundIf {condition : Bool} {finding : Finding} :
    (∃ found ∈ foundIf condition finding, found.level = .error) ↔
      condition = true ∧ finding.level = .error := by
  unfold foundIf
  split
  next holds => simp [holds]
  next fails => simp [fails]

theorem exists_error_append {front back : List Finding} :
    (∃ found ∈ front ++ back, found.level = .error) ↔
      (∃ found ∈ front, found.level = .error) ∨ ∃ found ∈ back, found.level = .error := by
  simp only [List.mem_append, or_and_right, exists_or]

theorem exists_error_blankField {field value : String} :
    (∃ found ∈ blankField field value, found.level = .error) ↔ Text.isBlank value = true := by
  rw [blankField, exists_error_foundIf]
  simp [Finding.level]

namespace ActionSpec

/-- An action is found at fault if one of its targets is blank or if it cannot be made, and not
otherwise. -/
theorem exists_error_findings (notes : List String) (spec : ActionSpec) :
    (∃ finding ∈ spec.findings notes, finding.level = .error) ↔
      (∃ target ∈ spec.targets, Text.isBlank target = true) ∨
        ∃ fault, spec.toAction = .error fault := by
  cases spec with
  | reached message url urlRegex =>
      rw [findings, exists_error_append, exists_error_foundIf, toAction]
      cases UrlPattern.of url urlRegex with
      | ok pattern => simp [targets, Finding.level, Except.map]
      | error fault => simp [Finding.level, Except.map]
  | fill message selector fields autoSubmit =>
      unfold findings
      rw [exists_error_append, exists_error_append, exists_error_blankField, exists_error_foundIf]
      -- What is said about the submission is never an error.
      split <;> simp [targets, toAction, Finding.level]
  | seeTheValueOf message selector expected =>
      rw [findings, exists_error_append, exists_error_blankField, exists_error_foundIf]
      simp [targets, toAction, Finding.level]
  | noteDown message selector property =>
      rw [findings, exists_error_append, exists_error_append, exists_error_blankField,
        exists_error_blankField, exists_error_foundIf]
      simp [targets, toAction, Finding.level]
  | _ =>
      rw [findings, exists_error_blankField]
      simp [targets, toAction]

end ActionSpec

theorem Action.voiced_within_iff {allows : Call → Prop} (voice : Voice) (action : Action) :
    (action.voiced voice).Within allows ↔
      (∀ condition, action.strategy = .wait condition → allows condition.probe) ∧
        ∀ callback, action.callback = some callback → ∀ cue, (callback cue).Within allows :=
  ⟨fun within => ⟨within.probe, within.work⟩, fun ⟨probe, work⟩ => ⟨probe, work⟩⟩

theorem Action.compareText_within {selector : String} (aimed : Text.isBlank selector = false)
    (expected : Json) : (compareText selector expected).Within Call.Aimed := by
  refine .ask (by simpa [Call.Aimed, Call.targets] using aimed) ?_
  intro found
  split
  · trivial
  · trivial

namespace ActionSpec

/-- The calls of a step are about the targets of its action, and about nothing else. -/
theorem within_aimed_iff {spec : ActionSpec} {action : Action} (made : spec.toAction = .ok action)
    (voice : Voice) :
    (action.voiced voice).Within Call.Aimed ↔
      ∀ target ∈ spec.targets, Text.isBlank target = false := by
  rw [Action.voiced_within_iff]
  cases spec with
  | reached message url urlRegex =>
      rw [toAction] at made
      cases pattern : UrlPattern.of url urlRegex with
      | error fault =>
          rw [pattern] at made
          cases made
      | ok pattern =>
          rw [pattern] at made
          cases made
          simp [targets, Action.reached, Condition.probe, Call.Aimed, Call.targets]
  | am | find =>
      cases made
      simp [targets, Action.am, Action.find, Action.onSelector, Condition.probe, Call.Aimed,
        Call.targets]
  | fill | click =>
      cases made
      simp [targets, Action.fill, Action.click, Action.onSelector, Condition.probe, Call.Aimed,
        Call.targets]
  | findTheVisible | canSee =>
      cases made
      simp [targets, Action.findTheVisible, Action.canSee, Action.onVisible, Condition.probe,
        Call.Aimed, Call.targets]
  | see | clickTheLabel =>
      cases made
      simp [targets, Action.see, Action.clickTheLabel, Action.onText, Condition.probe, Call.Aimed,
        Call.targets]
  | goTo =>
      cases made
      simp [targets, Action.goTo, Action.atOnce, Call.Aimed, Call.targets]
  | shouldNotSee | cannotFindThe =>
      cases made
      simp [targets, Action.shouldNotSee, Action.cannotFindThe, Action.atOnce, Call.Aimed,
        Call.targets, Program.Within]
  | seeTheValueOf message selector expected =>
      cases made
      simp only [targets, Action.seeTheValueOf, Action.onSelector, Condition.probe, Call.Aimed,
        Call.targets, List.forall_mem_singleton, Strategy.wait.injEq, forall_eq',
        Option.some.injEq, and_iff_left_iff_imp]
      intro aimed _
      have compares := Action.compareText_within aimed expected
      split
      · exact compares
      · exact compares
  | noteDown =>
      cases made
      simp [targets, Action.noteDown, Action.atOnce, Call.Aimed, Call.targets, Program.Within]

end ActionSpec

/-- A step is found at fault if and only if it cannot be made or has a call with a blank target. -/
theorem StepSpec.exists_error_findings (notes : List String) (spec : StepSpec) :
    (∃ finding ∈ spec.action.findings notes, finding.level = .error) ↔
      ∀ made, spec.toStep = .ok made → ¬made.Within Call.Aimed := by
  rw [ActionSpec.exists_error_findings, toStep]
  cases described : spec.action.toAction with
  | error fault => simp [Except.map]
  | ok action =>
      have aimed := ActionSpec.within_aimed_iff described spec.voice
      simp [Except.map, aimed]

theorem findings_mem_stepDiagnostics (scenario : ScenarioSpec) (number : Nat)
    (notes : List String) (earlier : List StepSpec) (step : StepSpec) (later : List StepSpec) :
    ∃ noted, ∀ finding ∈ step.action.findings noted,
      finding.at (some (step.location scenario (number + earlier.length))) ∈
        (stepDiagnostics scenario number notes (earlier ++ step :: later)).1 := by
  induction earlier generalizing number notes with
  | nil =>
      refine ⟨notes, ?_⟩
      intro finding membership
      rw [List.nil_append, stepDiagnostics]
      exact List.mem_append_left _ (List.mem_map_of_mem membership)
  | cons other rest inductionHypothesis =>
      obtain ⟨noted, told⟩ :=
        inductionHypothesis (number + 1) (other.action.note?.toList ++ notes)
      refine ⟨noted, ?_⟩
      intro finding membership
      rw [List.cons_append, stepDiagnostics, List.length_cons,
        show number + (rest.length + 1) = number + 1 + rest.length by omega]
      exact List.mem_append_right _ (told finding membership)

theorem stepDiagnostics_mem_scenarioDiagnostics (all defined notes : List String)
    (before : List ScenarioSpec) (scenario : ScenarioSpec) (behind : List ScenarioSpec) :
    ∃ noted, ∀ diagnostic ∈ (stepDiagnostics scenario 1 noted scenario.steps).1,
      diagnostic ∈ scenarioDiagnostics all defined notes (before ++ scenario :: behind) := by
  induction before generalizing defined notes with
  | nil =>
      refine ⟨notes, ?_⟩
      intro diagnostic membership
      rw [List.nil_append, scenarioDiagnostics]
      exact List.mem_append_left _ (List.mem_append_right _ membership)
  | cons other rest inductionHypothesis =>
      obtain ⟨noted, told⟩ :=
        inductionHypothesis (other.name :: defined) (stepDiagnostics other 1 notes other.steps).2
      refine ⟨noted, ?_⟩
      intro diagnostic membership
      rw [List.cons_append, scenarioDiagnostics]
      exact List.mem_append_right _ (told diagnostic membership)

namespace Document

theorem findings_mem_diagnostics {document : Document} {before behind : List ScenarioSpec}
    {scenario : ScenarioSpec} {earlier later : List StepSpec} {step : StepSpec}
    (there : document.scenarios = before ++ scenario :: behind)
    (here : scenario.steps = earlier ++ step :: later) :
    ∃ notes, ∀ finding ∈ step.action.findings notes,
      finding.at (some (step.location scenario (earlier.length + 1))) ∈
        document.diagnostics := by
  obtain ⟨noted, told⟩ := stepDiagnostics_mem_scenarioDiagnostics
    (document.scenarios.map ScenarioSpec.name) [] [] before scenario behind
  obtain ⟨notes, found⟩ := findings_mem_stepDiagnostics scenario 1 noted earlier step later
  rw [← here, Nat.add_comm] at found
  rw [← there] at told
  exact ⟨notes, fun finding membership =>
    List.mem_append_right _ (told _ (found finding membership))⟩

theorem exists_error_of_not_aimed {document : Document} {before behind : List ScenarioSpec}
    {scenario : ScenarioSpec} {earlier later : List StepSpec} {step : StepSpec}
    (there : document.scenarios = before ++ scenario :: behind)
    (here : scenario.steps = earlier ++ step :: later)
    (astray : ∀ made, step.toStep = .ok made → ¬made.Within Call.Aimed) :
    ∃ diagnostic ∈ document.diagnostics, diagnostic.isError = true ∧
      diagnostic.location = some (step.location scenario (earlier.length + 1)) := by
  obtain ⟨notes, told⟩ := findings_mem_diagnostics there here
  obtain ⟨finding, membership, level⟩ := (step.exists_error_findings notes).mpr astray
  refine ⟨_, told finding membership, ?_, rfl⟩
  simp [Finding.at, Diagnostic.isError, level]

/-- Wherever a step of a document has a blank target, an error is told of that very step.  Where no
error is told, the document can be installed, and no call of any step that it adds to a suite has
a blank target. -/
theorem diagnostics_require_targets (document : Document) :
    (∀ before scenario behind earlier step later,
      document.scenarios = before ++ scenario :: behind →
      scenario.steps = earlier ++ step :: later →
      (∀ made, step.toStep = .ok made → ¬made.Within Call.Aimed) →
      ∃ diagnostic ∈ document.diagnostics, diagnostic.isError = true ∧
        diagnostic.location = some (step.location scenario (earlier.length + 1))) ∧
    ((∀ diagnostic ∈ document.diagnostics, diagnostic.isError = false) →
      ∀ suite, ∃ after, document.install suite = (.ok (), after) ∧
        suite.Grows (fun step => step.Within Call.Aimed) after) := by
  refine ⟨fun _ _ _ _ _ _ => exists_error_of_not_aimed, ?_⟩
  intro clean suite
  have free := document.diagnostics_announce.eq_none_of_clean clean
  have banner : Step.banner.Within Call.Aimed := ⟨by rintro _ ⟨⟩, by rintro _ ⟨⟩⟩
  have steps : ∀ scenario ∈ document.scenarios, ∀ step ∈ scenario.steps, ∀ made,
      step.toStep = .ok made → made.Within Call.Aimed := by
    intro scenario inside step within made makes
    obtain ⟨before, behind, there⟩ := List.append_of_mem inside
    obtain ⟨earlier, later, here⟩ := List.append_of_mem within
    -- Otherwise an error would have been told of this step.
    by_contra astray
    have everMade : ∀ other, step.toStep = .ok other → ¬other.Within Call.Aimed := by
      intro other makesOther
      cases makes.symm.trans makesOther
      exact astray
    obtain ⟨diagnostic, told, error, -⟩ := exists_error_of_not_aimed there here everMade
    rw [clean diagnostic told] at error
    cases error
  have nothing : suite.Knows (fun step => step.Within Call.Aimed) fun _ => false := by
    rintro name ⟨⟩
  exact installAll_grows free banner steps nothing

/-- A visit on which a button without a selector is to be clicked. -/
def groping : Document :=
  { entryUrl := "/shop"
    scenarios := [
      { name := "Visiting"
        dependsOn := []
        steps := [
          { voice := .when, action := .goTo "the shop" "/shop" },
          { voice := .and, action := .click "buy" " " }] }] }

theorem groping_told :
    Text.isBlank " " = true ∧
      ∃ diagnostic ∈ groping.diagnostics, diagnostic.isError = true ∧
        diagnostic.location = some "scenario Visiting > step 2 (click)" := by
  have astray : ∀ made, StepSpec.toStep { voice := .and, action := .click "buy" " " } = .ok made →
      ¬made.Within Call.Aimed := by
    rintro made ⟨⟩ within
    exact absurd (within.probe _ rfl " " (.head _)) (by decide)
  exact ⟨by decide,
    groping.diagnostics_require_targets.1 [] _ [] [_] _ [] rfl rfl astray⟩

/-- A payment that is through once the till has been reached, wherever that is. -/
def aimless : Document :=
  { entryUrl := "/shop"
    scenarios := [
      { name := "Paying"
        dependsOn := []
        steps := [{ voice := .when, action := .reached "the till" (some "") none }] }] }

/-- An address of which nothing is said is reached everywhere, and no diagnostic tells so. -/
theorem aimless_clean :
    aimless.diagnostics = [] ∧ Text.isBlank "" = true ∧
      (∃ item ∈ (aimless.install .empty).2.pipeline,
        item.step.strategy = .wait (.url (.fragment ""))) ∧
      ∀ address, (UrlPattern.fragment "").holds address = true := by
  refine ⟨by decide +kernel, by decide, ?_, ?_⟩
  · exact ⟨_, .tail _ (.head _), rfl⟩
  · intro address
    exact Text.contains_iff.mpr List.nil_infix

end Document

end Rehearsal

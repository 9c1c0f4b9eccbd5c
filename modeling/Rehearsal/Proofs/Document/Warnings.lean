import Rehearsal.Engine.Page
import Rehearsal.Proofs.Document.Attribution
import Rehearsal.Proofs.Document.Growth
import Rehearsal.Proofs.Document.Installing
import Rehearsal.Proofs.Document.Prediction
import Rehearsal.Proofs.Step.Comparing

/-!
What becomes of the warnings of a document.

Whatever is warned of comes true in every run: a form that is said not to be submitted is not
submitted, a value that is said to equal no text is never seen, and an address beside a regular
expression makes no difference.
-/

namespace Rehearsal

namespace ActionSpec

variable {message selector : String} {fields : FormData} {autoSubmit : Option Json}
  {expected : Json} {url urlRegex : Option String} {notes : List String} {finding : Finding}

/-- Which finding it is shows in the first letter of its words. -/
theorem head_message_oddSubmit (value : Json) :
    (Finding.oddSubmit value).message.toList.head? = some 'a' :=
  head_append (head_append (by decide) _) _

theorem head_message_oddExpectation (value : Json) :
    (Finding.oddExpectation value).message.toList.head? = some 'e' :=
  head_append (head_append (by decide) _) _

theorem mem_foundIf {condition : Bool} {other : Finding}
    (found : finding ∈ foundIf condition other) : condition = true ∧ finding = other := by
  unfold foundIf at found
  split at found
  next holds => exact ⟨holds, List.mem_singleton.mp found⟩
  next => cases found

/-- A form of which it is said that it will not be submitted is not to be submitted. -/
theorem submits_of_oddSubmit {value : Json}
    (found : finding ∈ (fill message selector fields autoSubmit).findings notes)
    (worded : finding.message = (Finding.oddSubmit value).message) :
    Action.submits autoSubmit = false := by
  have head := head_message_oddSubmit value
  rw [← worded] at head
  rcases List.mem_append.mp found with others | odd
  · rcases List.mem_append.mp others with blank | empty
    · rw [(mem_foundIf blank).2] at head
      exact absurd head (by decide)
    · rw [(mem_foundIf empty).2] at head
      exact absurd head (by decide)
  · match autoSubmit, odd with
    | some (.null), _ | some (.number _), _ | some (.text _), _ | some (.list _), _
    | some (.object _), _ => rfl

/-- Unless anything else is said, only `false` keeps a form from being submitted. -/
theorem eq_false_of_not_submits
    (silent : ∀ finding ∈ (fill message selector fields autoSubmit).findings notes,
      ∀ value, finding.message ≠ (Finding.oddSubmit value).message)
    (unsubmitted : Action.submits autoSubmit = false) : autoSubmit = some (.bool false) := by
  match autoSubmit, unsubmitted with
  | some (.bool false), _ => rfl
  | some .null, _ | some (.number _), _ | some (.text _), _ | some (.list _), _
  | some (.object _), _ =>
      exact (silent _ (List.mem_append_right _ (List.mem_singleton_self _)) _ rfl).elim

theorem isText_of_oddExpectation {value : Json}
    (found : finding ∈ (seeTheValueOf message selector expected).findings notes)
    (worded : finding.message = (Finding.oddExpectation value).message) :
    expected.isText = false := by
  have head := head_message_oddExpectation value
  rw [← worded] at head
  rcases List.mem_append.mp found with blank | odd
  · rw [(mem_foundIf blank).2] at head
    exact absurd head (by decide)
  · simpa using (mem_foundIf odd).1

theorem isSome_of_bothUrls (found : finding ∈ (reached message url urlRegex).findings notes)
    (worded : finding.message = Finding.bothUrls.message) : urlRegex.isSome = true := by
  rcases List.mem_append.mp found with both | bad
  · exact (Bool.and_eq_true_iff.mp (mem_foundIf both).1).2
  · split at bad
    · cases bad
    next fault _ =>
      have head : finding.message.toList.head? = some 'i' := by
        rw [List.mem_singleton.mp bad]
        exact head_append (by decide) _
      rw [worded] at head
      exact absurd head (by decide)

end ActionSpec

/-- A run bears out what has been told of a step. -/
structure StepSpec.BorneOut (step : StepSpec) (told : List Diagnostic) (item : Scheduled)
    (history : List Occurrence) : Prop where
  /-- A form that is said not to be submitted is not submitted. -/
  unsubmitted : ∀ message selector fields autoSubmit value,
    step.action = .fill message selector fields autoSubmit →
    (∃ diagnostic ∈ told, diagnostic.message = (Finding.oddSubmit value).message) →
    ∀ target form submit,
      .fill target form submit ∈ history.filterMap Occurrence.call? → submit = false
  /-- Unless something of the kind or an error is told, a form is submitted but for `false`. -/
  submitted : ∀ message selector fields autoSubmit,
    step.action = .fill message selector fields autoSubmit →
    (∀ diagnostic ∈ told, diagnostic.isError = false ∧
      ∀ value, diagnostic.message ≠ (Finding.oddSubmit value).message) →
    ∀ target form,
      .fill target form false ∈ history.filterMap Occurrence.call? →
      autoSubmit = some (.bool false)
  /-- A value that is said to equal no text is never seen; the step warns before it looks. -/
  unequal : ∀ message selector expected value,
    step.action = .seeTheValueOf message selector expected →
    (∃ diagnostic ∈ told, diagnostic.message = (Finding.oddExpectation value).message) →
    (∃ outcome, outcome ≠ .passed ∧
      history.filterMap Occurrence.signal? =
        [(outcome, item.context.scenario, item.context.index)]) ∧
    (history.any (Occurrence.shows selector) = true → ∃ early ms reply late,
      history = early ++ .recorded (.log .warning Action.notTextWarning) ::
        .answered (.fetchText selector) ms reply :: late ∧
      ∀ call ∈ (early ++ late).filterMap Occurrence.call?, call ≠ .fetchText selector)

theorem mem_fillings {history : List Occurrence} {target : String} {form : FormData}
    {submit : Bool} (called : .fill target form submit ∈ history.filterMap Occurrence.call?) :
    .fill target form submit ∈ fillings history :=
  List.mem_filter.mpr ⟨called, rfl⟩

theorem Scheduled.Unrolls.submits {config : Config} {item : Scheduled}
    {history : List Occurrence} {message selector target : String} {fields form : FormData}
    {flag submit : Bool} (unrolls : item.Unrolls config history)
    (does : item.step.Does (.fill message selector fields (some flag)))
    (called : .fill target form submit ∈ history.filterMap Occurrence.call?) : submit = flag := by
  obtain ⟨outcome, unrolls⟩ := unrolls
  have filled := mem_fillings called
  rw [unrolls.fillings does] at filled
  split at filled
  · cases List.mem_singleton.mp filled
    rfl
  · cases filled

theorem StepSpec.does_of_toStep {spec : StepSpec} {step : Step} {action : Action}
    (made : spec.toStep = .ok step) (described : spec.action.toAction = .ok action) :
    step.Does action := by
  rw [toStep, described] at made
  cases made
  exact Action.voiced_does spec.voice action

theorem Scheduled.Unrolls.borneOut {config : Config} {item : Scheduled} {step : StepSpec}
    {notes : List String} {location : Option String} {history : List Occurrence}
    (unrolls : item.Unrolls config history) (made : step.toStep = .ok item.step) :
    step.BorneOut ((step.action.findings notes).map (Finding.at location)) item history where
  unsubmitted message selector fields autoSubmit value action odd target form submit called := by
    obtain ⟨_, told, worded⟩ := odd
    obtain ⟨finding, found, rfl⟩ := List.mem_map.mp told
    rw [action] at found
    have does := StepSpec.does_of_toStep made (by rw [action]; rfl)
    rw [unrolls.submits does called]
    exact ActionSpec.submits_of_oddSubmit found worded
  submitted message selector fields autoSubmit action silent target form called := by
    have does := StepSpec.does_of_toStep made (by rw [action]; rfl)
    have unsubmitted := unrolls.submits does called
    rw [action] at silent
    have quiet : ∀ finding ∈ (ActionSpec.fill message selector fields autoSubmit).findings notes,
        ∀ value, finding.message ≠ (Finding.oddSubmit value).message :=
      fun finding found value => (silent _ (List.mem_map_of_mem found)).2 value
    exact ActionSpec.eq_false_of_not_submits quiet unsubmitted.symm
  unequal message selector expected value action odd := by
    obtain ⟨_, told, worded⟩ := odd
    obtain ⟨finding, found, rfl⟩ := List.mem_map.mp told
    rw [action] at found
    have does := StepSpec.does_of_toStep made (by rw [action]; rfl)
    obtain ⟨outcome, unrolls⟩ := unrolls
    exact unrolls.compares does (ActionSpec.isText_of_oddExpectation found worded)

/-- The step with another address beside its regular expression. -/
def StepSpec.withUrl (url : Option String) (step : StepSpec) : StepSpec :=
  match step.action with
  | .reached message _ urlRegex => { step with action := .reached message url urlRegex }
  | _ => step

theorem StepSpec.toStep_withUrl {step : StepSpec} {message : String}
    {url urlRegex : Option String} (action : step.action = .reached message url urlRegex)
    (regex : urlRegex.isSome = true) (other : Option String) :
    (step.withUrl other).toStep = step.toStep := by
  obtain ⟨source, rfl⟩ := Option.isSome_iff_exists.mp regex
  unfold withUrl toStep
  rw [action]
  cases url <;> cases other <;> rfl

theorem mapM_modify {α β ε : Type} {f : α → Except ε β} {change : α → α} {values : List α}
    {place : Nat} (same : ∀ value, values[place]? = some value → f (change value) = f value) :
    (values.modify place change).mapM f = values.mapM f := by
  induction values generalizing place with
  | nil => rw [List.modify_nil]
  | cons value rest inductionHypothesis =>
      cases place with
      | zero => rw [List.modify_zero_cons, List.mapM_cons, List.mapM_cons, same value rfl]
      | succ place =>
          rw [List.modify_succ_cons, List.mapM_cons, List.mapM_cons, inductionHypothesis same]

theorem installAll_modify {change : ScenarioSpec → ScenarioSpec} {specs : List ScenarioSpec}
    {place : Nat}
    (same : ∀ spec, specs[place]? = some spec → (change spec).install = spec.install)
    (suite : Suite) : installAll (specs.modify place change) suite = installAll specs suite := by
  induction specs generalizing place suite with
  | nil => rw [List.modify_nil]
  | cons spec rest inductionHypothesis =>
      cases place with
      | zero => rw [List.modify_zero_cons, installAll, installAll, same spec rfl]
      | succ place =>
          rw [List.modify_succ_cons, installAll, installAll]
          simp only [inductionHypothesis same]

namespace Document

/-- The document with another address in one step, beside its regular expression. -/
def withUrl (document : Document) (i j : Nat) (url : Option String) : Document :=
  { document with
    scenarios := document.scenarios.modify i fun scenario =>
      { scenario with steps := scenario.steps.modify j (StepSpec.withUrl url) } }

theorem install_withUrl {document : Document} {i j : Nat} {scenario : ScenarioSpec}
    {step : StepSpec} {message : String} {url urlRegex : Option String}
    (there : document.scenarios[i]? = some scenario) (here : scenario.steps[j]? = some step)
    (action : step.action = .reached message url urlRegex) (regex : urlRegex.isSome = true)
    (other : Option String) : (document.withUrl i j other).install = document.install := by
  funext suite
  refine installAll_modify ?_ suite
  intro spec found
  cases there.symm.trans found
  funext suite
  unfold ScenarioSpec.install
  have same : (scenario.steps.modify j (StepSpec.withUrl other)).mapM StepSpec.toStep =
      scenario.steps.mapM StepSpec.toStep := by
    refine mapM_modify ?_
    intro step' found
    cases here.symm.trans found
    exact StepSpec.toStep_withUrl action regex other
  simp only [same]

variable {σ : Type}

/-- The warnings of a document tell the truth about every run.  Each step that it describes bears
out what has been told of it, and where it is told that an address stands beside a regular
expression, any other address would do as well. -/
theorem warnings_borne_out (engine : Engine σ) (config : Config) (entryUrl : String)
    {document : Document} {before suite : Suite} {world : World σ}
    (installed : document.install before = (.ok (), suite))
    (starts : engine.Starts entryUrl world.state) :
    document.diagnostics = document.subjects.flatMap document.told ∧
    (∀ (i j : Nat) (scenario : ScenarioSpec) (step : StepSpec) message url urlRegex,
      document.scenarios[i]? = some scenario → scenario.steps[j]? = some step →
      step.action = .reached message url urlRegex →
      (∃ diagnostic ∈ document.told (.step i j),
        diagnostic.message = Finding.bothUrls.message) →
      ∀ other, (document.withUrl i j other).install before = (.ok (), suite)) ∧
    ∃ after histories,
      world.run engine config entryUrl suite = (.ok (), after) ∧
      World.Runs engine config entryUrl suite.pipeline histories world after ∧
      ∀ (i j : Nat) (scenario : ScenarioSpec) (step : StepSpec),
        document.scenarios[i]? = some scenario → scenario.steps[j]? = some step →
        ∃ made, step.toStep = .ok made ∧
          (∃ item ∈ suite.pipeline, item.step = made ∧
            item.context =
              { voice := made.voice, scenario := scenario.name, index := j + 1 }) ∧
          List.Forall₂
            (fun item history =>
              item.step = made → step.BorneOut (document.told (.step i j)) item history)
            suite.pipeline histories := by
  refine ⟨document.diagnostics_eq, ?_, ?_⟩
  · intro i j scenario step message url urlRegex there here action warned other
    obtain ⟨notes, told⟩ := document.told_step there here
    obtain ⟨_, membership, worded⟩ := warned
    rw [told] at membership
    obtain ⟨finding, found, rfl⟩ := List.mem_map.mp membership
    rw [action] at found
    rw [install_withUrl there here action (ActionSpec.isSome_of_bothUrls found worded) other,
      installed]
  · obtain ⟨after, histories, ran, runs⟩ := World.run_unfolds engine config suite starts
    refine ⟨after, histories, ran, runs, ?_⟩
    intro i j scenario step there here
    obtain ⟨made, makes, scheduled⟩ := install_schedules installed there here
    obtain ⟨notes, told⟩ := document.told_step there here
    refine ⟨made, makes, scheduled, runs.steps.imp ?_⟩
    rintro item history unrolls rfl
    rw [told]
    exact unrolls.borneOut makes

/-- A till at which a form is warned of, a total that is no text, and an address that is given
twice. -/
def fussy : Document :=
  { entryUrl := "/"
    scenarios := [
      { name := "Pay"
        dependsOn := []
        steps := [
          { voice := .when, action := .fill "in" "#a" (.ofMembers []) (some (.text "yes")) },
          { voice := .then, action := .seeTheValueOf "total" "#a" (.ofNat 12) },
          { voice := .and, action := .reached "the till" (some "/till") (some "^") }] }] }

def counter : Page := .ofFacts [.elementText "#a" "12", .url "/"]

theorem fussy_installs : fussy.install .empty = (.ok (), (fussy.install .empty).2) := by
  have done : (fussy.install .empty).1.isOk = true := by decide +kernel
  refine Prod.ext ?_ rfl
  generalize (fussy.install .empty).1 = result at done ⊢
  cases result with
  | ok => rfl
  | error => cases done

/-- The form is filled in and not submitted, the total is not seen though it is there, and the till
is reached by the regular expression alone. -/
theorem fussy_borne_out :
    fussy.install .empty = (.ok (), (fussy.install .empty).2) ∧
      Page.engine.Starts "/" counter ∧
      fussy.diagnostics.map Diagnostic.message =
        ["fill has no fields",
          "auto_submit is \"yes\", not a boolean; the form will not be submitted",
          "expected value 12 is not a string; fetched text will never equal it",
          "both url and url_regex are set; url_regex is used"] ∧
      (∀ other, (fussy.withUrl 0 2 other).install .empty = (.ok (), (fussy.install .empty).2)) ∧
      ∃ after histories made,
        World.run Page.engine .default "/" (fussy.install .empty).2 (.fresh counter 0 .empty) =
          (.ok (), after) ∧
        made = (Action.seeTheValueOf "total" "#a" (.ofNat 12)).voiced .then ∧
        List.Forall₂
          (fun item history => item.step = made →
            StepSpec.BorneOut { voice := .then, action := .seeTheValueOf "total" "#a" (.ofNat 12) }
              (fussy.told (.step 0 1)) item history)
          (fussy.install .empty).2.pipeline histories ∧
        (after.calls.toList.map Prod.snd).filter Call.isFill =
          [.fill "#a" (.ofMembers []) false] ∧
        after.ledger.events.toList.filterMap Event.signal? =
          [(.passed, "Pay", 1), (.failed, "Pay", 2), (.passed, "Pay", 3)] := by
  have starts : Page.engine.Starts "/" (World.fresh counter 0 .empty).state := rfl
  obtain ⟨-, replaced, after, histories, ran, -, borne⟩ :=
    warnings_borne_out Page.engine .default "/" fussy_installs starts
  obtain ⟨_, makes, -, each⟩ := borne 0 1 _ _ rfl rfl
  cases makes
  have seen : ((World.run Page.engine .default "/" (fussy.install .empty).2
        (.fresh counter 0 .empty)).2.calls.toList.map Prod.snd).filter Call.isFill =
          [.fill "#a" (.ofMembers []) false] ∧
      (World.run Page.engine .default "/" (fussy.install .empty).2
        (.fresh counter 0 .empty)).2.ledger.events.toList.filterMap Event.signal? =
          [(.passed, "Pay", 1), (.failed, "Pay", 2), (.passed, "Pay", 3)] := by
    decide +kernel
  rw [ran] at seen
  refine ⟨fussy_installs, rfl, by decide +kernel, ?_, after, histories, _, ran, rfl, each, seen⟩
  exact replaced 0 2 _ _ _ _ _ rfl rfl rfl ⟨_, .head _, rfl⟩

end Document

end Rehearsal

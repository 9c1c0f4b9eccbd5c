import Rehearsal.Document.Plan
import Rehearsal.Document.Validation
import Rehearsal.Proofs.Document.Obstacle

/-!
What the diagnostics of a document say about its installation.

Looking through a document keeps a list of names, and installing it keeps a registry.  Both come to
the same scenarios, so that the first diagnostic that tells an error tells the one with which the
installation is refused.
-/

namespace Rehearsal

/-- A diagnostic tells the error with which a document is refused. -/
inductive Diagnostic.Tells (diagnostic : Diagnostic) : Error → Prop where
  | later {name : String} :
      diagnostic.level = .error →
      diagnostic.message =
        "depends on '" ++ name ++ "', which is only defined later in the document" →
      Tells diagnostic (.unknownScenario name)
  | undefined {name : String} :
      diagnostic.level = .error →
      diagnostic.message = "depends on undefined scenario '" ++ name ++ "'" →
      Tells diagnostic (.unknownScenario name)
  | address {fault : DocumentFault} :
      diagnostic.level = .error →
      diagnostic.message = (Error.document fault).message →
      Tells diagnostic (.document fault)

def Diagnostic.Stops (diagnostic : Diagnostic) : Prop :=
  ∃ error, diagnostic.Tells error

/-- The first diagnostic that tells an error tells this one, if any tells one. -/
inductive Announces (diagnostics : List Diagnostic) : Option Error → Prop where
  | nothing : (∀ diagnostic ∈ diagnostics, ¬diagnostic.Stops) → Announces diagnostics none
  | first {before after : List Diagnostic} {diagnostic : Diagnostic} {error : Error} :
      diagnostics = before ++ diagnostic :: after →
      (∀ earlier ∈ before, ¬earlier.Stops) → diagnostic.Tells error →
      Announces diagnostics (some error)

theorem Announces.append {front back : List Diagnostic} {first second : Option Error}
    (announced : Announces front first) (behind : Announces back second) :
    Announces (front ++ back) (first.or second) := by
  cases announced with
  | nothing silent =>
      cases behind with
      | nothing still =>
          refine .nothing ?_
          rw [List.forall_mem_append]
          exact ⟨silent, still⟩
      | @first before after diagnostic error found still tells =>
          have split : front ++ back = (front ++ before) ++ diagnostic :: after := by
            rw [found, List.append_assoc]
          refine .first split ?_ tells
          rw [List.forall_mem_append]
          exact ⟨silent, still⟩
  | @first before after diagnostic error found silent tells =>
      have split : front ++ back = before ++ diagnostic :: (after ++ back) := by
        rw [found, List.append_assoc, List.cons_append]
      exact .first split silent tells

theorem Announces.silent {diagnostics : List Diagnostic} (announced : Announces diagnostics none) :
    ∀ diagnostic ∈ diagnostics, ¬diagnostic.Stops := by
  cases announced with
  | nothing silent => exact silent

theorem Announces.of_refused {diagnostics : List Diagnostic} {obstacle : Option Error}
    {error : Error} (announced : Announces diagnostics obstacle)
    (refused : .error error = refusal obstacle) :
    ∃ before diagnostic behind,
      diagnostics = before ++ diagnostic :: behind ∧
      (∀ earlier ∈ before, ¬earlier.Stops) ∧ diagnostic.Tells error := by
  cases announced with
  | nothing => cases refused
  | first found silent tells =>
      cases refused
      exact ⟨_, _, _, found, silent, tells⟩

namespace Finding

/-- The error that a finding comes to once the document is installed. -/
def stop? : Finding → Option Error
  | .definedLater name | .undefined name => some (.unknownScenario name)
  | .badUrl fault => some (.document fault)
  | _ => none

/-- A finding that is made of a document: it knows the names of the fields. -/
def Genuine : Finding → Prop
  | .blank field => field ∈ ["selector", "text", "label", "url", "attribute"]
  | _ => True

end Finding

theorem head_append {text : String} {first : Char} (begins : text.toList.head? = some first)
    (rest : String) : (text ++ rest).toList.head? = some first := by
  rw [String.toList_append, List.head?_append, begins]
  rfl

theorem Diagnostic.Tells.head {diagnostic : Diagnostic} {error : Error}
    (tells : diagnostic.Tells error) :
    diagnostic.message.toList.head? = some 'd' ∨ diagnostic.message.toList.head? = some 'i' := by
  cases tells with
  | later _ worded | undefined _ worded =>
      rw [worded]
      exact .inl (head_append (head_append (by decide) _) _)
  | address _ worded =>
      rw [worded]
      exact .inr (head_append (by decide) _)

theorem Diagnostic.Tells.level {diagnostic : Diagnostic} {error : Error}
    (tells : diagnostic.Tells error) : diagnostic.level = .error := by
  cases tells with
  | later level | undefined level | address level => exact level

theorem Announces.eq_none_of_clean {diagnostics : List Diagnostic} {obstacle : Option Error}
    (announced : Announces diagnostics obstacle)
    (clean : ∀ diagnostic ∈ diagnostics, diagnostic.isError = false) : obstacle = none := by
  cases announced with
  | nothing => rfl
  | @first before after diagnostic error found _ tells =>
      have harmless := clean diagnostic (by simp [found])
      rw [Diagnostic.isError, tells.level] at harmless
      cases harmless

namespace Finding

theorem tells_of_stop {finding : Finding} {error : Error} (stops : finding.stop? = some error)
    (location : Option String) : (finding.at location).Tells error := by
  cases finding with
  | definedLater name =>
      cases stops
      exact .later rfl rfl
  | undefined name =>
      cases stops
      exact .undefined rfl rfl
  | badUrl fault =>
      cases stops
      exact .address rfl rfl
  | _ => cases stops

theorem not_stops {finding : Finding} (genuine : finding.Genuine) (free : finding.stop? = none)
    (location : Option String) : ¬(finding.at location).Stops := by
  rintro ⟨error, tells⟩
  -- Words that tell an error begin with a letter with which no other error begins.
  have level : finding.level = .error := tells.level
  have head : finding.message.toList.head? = some 'd' ∨ finding.message.toList.head? = some 'i' :=
    tells.head
  cases finding with
  | definedLater | undefined | badUrl => cases free
  | entryUrlBlank | scenarioNameBlank => exact absurd head (by decide)
  | blank field =>
      simp only [Genuine, List.mem_cons, List.not_mem_nil, or_false] at genuine
      rcases genuine with rfl | rfl | rfl | rfl | rfl
      all_goals exact absurd head (by decide)
  | _ => cases level

theorem announces {findings : List Finding} (genuine : ∀ finding ∈ findings, finding.Genuine)
    (location : Option String) :
    Announces (findings.map (Finding.at location)) (findings.findSome? stop?) := by
  induction findings with
  | nil => exact .nothing (by simp)
  | cons finding rest inductionHypothesis =>
      rw [List.forall_mem_cons] at genuine
      have others := inductionHypothesis genuine.2
      cases stops : finding.stop? with
      | none =>
          have silent : Announces [finding.at location] none := by
            refine .nothing ?_
            rw [List.forall_mem_singleton]
            exact not_stops genuine.1 stops location
          rw [List.findSome?_cons, stops]
          exact silent.append others
      | some error =>
          have split : [finding.at location] = [] ++ finding.at location :: [] := rfl
          have told : Announces [finding.at location] (some error) :=
            .first split (by simp) (tells_of_stop stops location)
          rw [List.findSome?_cons, stops]
          exact told.append others

theorem genuine_foundIf {condition : Bool} {finding : Finding} (genuine : finding.Genuine) :
    ∀ other ∈ foundIf condition finding, other.Genuine := by
  intro other membership
  unfold foundIf at membership
  split at membership
  · rwa [List.mem_singleton.mp membership]
  · cases membership

theorem findSome?_foundIf {finding : Finding} (free : finding.stop? = none) (condition : Bool) :
    (foundIf condition finding).findSome? stop? = none := by
  unfold foundIf
  split
  · simp [free]
  · rfl

end Finding

namespace ActionSpec

theorem findings_genuine (notes : List String) (spec : ActionSpec) :
    ∀ finding ∈ spec.findings notes, finding.Genuine := by
  cases spec with
  | reached message url urlRegex =>
      unfold findings
      rw [List.forall_mem_append]
      refine ⟨Finding.genuine_foundIf trivial, ?_⟩
      split
      · simp
      · simp [Finding.Genuine]
  | fill message selector fields autoSubmit =>
      unfold findings
      rw [List.forall_mem_append, List.forall_mem_append]
      refine ⟨⟨Finding.genuine_foundIf (by simp [Finding.Genuine]),
        Finding.genuine_foundIf trivial⟩, ?_⟩
      split
      · simp
      · simp
      · simp [Finding.Genuine]
  | seeTheValueOf message selector expected =>
      rw [findings, List.forall_mem_append]
      exact ⟨Finding.genuine_foundIf (by simp [Finding.Genuine]), Finding.genuine_foundIf trivial⟩
  | noteDown message selector property =>
      rw [findings, List.forall_mem_append, List.forall_mem_append]
      exact ⟨⟨Finding.genuine_foundIf (by simp [Finding.Genuine]),
        Finding.genuine_foundIf (by simp [Finding.Genuine])⟩, Finding.genuine_foundIf trivial⟩
  | _ => exact Finding.genuine_foundIf (by simp [Finding.Genuine])

/-- The one finding about an action that stops the installation is about the address that it is
to reach. -/
theorem findSome?_findings (notes : List String) (spec : ActionSpec) :
    (spec.findings notes).findSome? Finding.stop? =
      match spec.toAction with
      | .ok _ => none
      | .error fault => some (.document fault) := by
  cases spec with
  | reached message url urlRegex =>
      unfold findings
      rw [List.findSome?_append, Finding.findSome?_foundIf rfl, toAction]
      cases UrlPattern.of url urlRegex with
      | ok pattern => rfl
      | error fault => rfl
  | fill message selector fields autoSubmit =>
      unfold findings
      rw [List.findSome?_append, List.findSome?_append, blankField,
        Finding.findSome?_foundIf rfl, Finding.findSome?_foundIf rfl, toAction]
      split <;> rfl
  | seeTheValueOf message selector expected =>
      rw [findings, List.findSome?_append, blankField, Finding.findSome?_foundIf rfl,
        Finding.findSome?_foundIf rfl, toAction]
      rfl
  | noteDown message selector property =>
      rw [findings, List.findSome?_append, List.findSome?_append, blankField, blankField,
        Finding.findSome?_foundIf rfl, Finding.findSome?_foundIf rfl,
        Finding.findSome?_foundIf rfl, toAction]
      rfl
  | _ => exact Finding.findSome?_foundIf rfl _

end ActionSpec

theorem stepDiagnostics_announce (scenario : ScenarioSpec) (number : Nat) (notes : List String)
    (steps : List StepSpec) :
    Announces (stepDiagnostics scenario number notes steps).1 (stepObstacle steps) := by
  induction steps generalizing number notes with
  | nil => exact .nothing (by simp [stepDiagnostics])
  | cons step rest inductionHypothesis =>
      have here := Finding.announces (step.action.findings_genuine notes)
        (some (step.location scenario number))
      have others := inductionHypothesis (number + 1) (step.action.note?.toList ++ notes)
      have both := here.append others
      rw [ActionSpec.findSome?_findings] at both
      rw [stepDiagnostics, stepObstacle]
      cases made : step.action.toAction with
      | ok action =>
          rw [made] at both
          exact both
      | error fault =>
          rw [made] at both
          exact both

theorem findSome?_dependencyFindings (all defined names : List String) :
    (dependencyFindings all defined names).findSome? Finding.stop? =
      (names.find? fun name => !defined.contains name).map .unknownScenario := by
  induction names with
  | nil => rfl
  | cons name rest inductionHypothesis =>
      unfold dependencyFindings at inductionHypothesis ⊢
      rw [List.flatMap_cons, List.findSome?_append, inductionHypothesis, List.find?_cons]
      cases defined.contains name with
      | true => rfl
      | false =>
          cases all.contains name with
          | true => rfl
          | false => rfl

theorem dependencyFindings_genuine (all defined names : List String) :
    ∀ finding ∈ dependencyFindings all defined names, finding.Genuine := by
  intro finding membership
  obtain ⟨name, -, found⟩ := List.mem_flatMap.mp membership
  split at found
  · cases found
  · split at found
    · rw [List.mem_singleton.mp found]
      trivial
    · rw [List.mem_singleton.mp found]
      trivial

theorem ScenarioSpec.findings_genuine (all defined : List String) (spec : ScenarioSpec) :
    ∀ finding ∈ spec.findings all defined, finding.Genuine := by
  simp only [findings, List.forall_mem_append]
  exact ⟨⟨⟨Finding.genuine_foundIf trivial, Finding.genuine_foundIf trivial⟩,
    dependencyFindings_genuine all defined spec.dependsOn⟩, Finding.genuine_foundIf trivial⟩

theorem ScenarioSpec.findSome?_findings (all defined : List String) (spec : ScenarioSpec) :
    (spec.findings all defined).findSome? Finding.stop? =
      (spec.dependsOn.find? fun name => !defined.contains name).map .unknownScenario := by
  rw [findings, List.findSome?_append, List.findSome?_append, List.findSome?_append,
    Finding.findSome?_foundIf rfl, Finding.findSome?_foundIf rfl, Finding.findSome?_foundIf rfl,
    findSome?_dependencyFindings]
  simp

/-- The names that are defined before a scenario are those that a suite knows by then. -/
theorem scenarioDiagnostics_announce (all defined notes : List String)
    (specs : List ScenarioSpec) :
    Announces (scenarioDiagnostics all defined notes specs)
      (obstacle (fun name => defined.contains name) specs) := by
  induction specs generalizing defined notes with
  | nil => exact .nothing (by simp [scenarioDiagnostics])
  | cons spec rest inductionHypothesis =>
      have own := Finding.announces (spec.findings_genuine all defined) (some spec.location)
      rw [spec.findSome?_findings] at own
      have steps := stepDiagnostics_announce spec 1 notes spec.steps
      have others := inductionHypothesis (spec.name :: defined)
        (stepDiagnostics spec 1 notes spec.steps).2
      -- The list of names grows by a scenario just as the registry does.
      have known : (fun name => (spec.name :: defined).contains name) =
          fun name => decide (spec.name = name) || defined.contains name := by
        funext name
        rw [List.contains_cons, Bool.beq_eq_decide_eq, decide_eq_decide.mpr eq_comm]
      rw [known] at others
      exact (own.append steps).append others

namespace Document

theorem diagnostics_announce (document : Document) :
    Announces document.diagnostics (obstacle (fun _ => false) document.scenarios) := by
  have genuine : ∀ finding ∈ foundIf (Text.isBlank document.entryUrl) .entryUrlBlank,
      finding.Genuine := Finding.genuine_foundIf trivial
  have url := Finding.announces genuine none
  rw [Finding.findSome?_foundIf rfl] at url
  exact url.append
    (scenarioDiagnostics_announce (document.scenarios.map ScenarioSpec.name) [] []
      document.scenarios)

theorem install_eq_refusal (document : Document) (suite : Suite) :
    (document.install suite).1 =
      refusal (obstacle (fun name => suite.registry.contains name) document.scenarios) :=
  installAll_refused document.scenarios suite

theorem exists_install_of_clean {document : Document}
    (clean : ∀ diagnostic ∈ document.diagnostics, diagnostic.isError = false) (suite : Suite) :
    ∃ after, document.install suite = (.ok (), after) := by
  have free := document.diagnostics_announce.eq_none_of_clean clean
  have result := document.install_eq_refusal suite
  rw [obstacle_eq_none_of_le (by simp) free] at result
  exact ⟨(document.install suite).2, Prod.ext result rfl⟩

theorem plan_of_install {document : Document} {suite : Suite} (config : Config)
    (installed : document.install .empty = (.ok (), suite)) :
    document.plan config = .ok (suite.plan document.entryUrl config) := by
  rw [plan, installed]

/-- The diagnostics of a document predict its installation.  Without an error among them it succeeds
on every suite, and so does the dry run; on an empty suite it fails if and only if one of them tells
an error, and then with the error that the first of these tells. -/
theorem diagnostics_predict_install (document : Document) :
    ((∀ diagnostic ∈ document.diagnostics, diagnostic.isError = false) →
      (∀ suite, ∃ after, document.install suite = (.ok (), after)) ∧
        ∀ config, ∃ plan, document.plan config = .ok plan) ∧
    ((∃ error after, document.install .empty = (.error error, after)) ↔
      ∃ diagnostic ∈ document.diagnostics, diagnostic.Stops) ∧
    ∀ error after, document.install .empty = (.error error, after) →
      ∃ before diagnostic behind,
        document.diagnostics = before ++ diagnostic :: behind ∧
        (∀ earlier ∈ before, ¬earlier.Stops) ∧ diagnostic.Tells error := by
  have announced := document.diagnostics_announce
  have installed := document.install_eq_refusal .empty
  rw [show (fun name => Suite.empty.registry.contains name) = fun _ => false from rfl] at installed
  refine ⟨?_, ?_, ?_⟩
  · intro clean
    have free := announced.eq_none_of_clean clean
    have everywhere : ∀ suite, ∃ after, document.install suite = (.ok (), after) := by
      intro suite
      have result := document.install_eq_refusal suite
      rw [obstacle_eq_none_of_le (by simp) free] at result
      exact ⟨(document.install suite).2, Prod.ext result rfl⟩
    refine ⟨everywhere, ?_⟩
    intro config
    obtain ⟨after, done⟩ := everywhere .empty
    exact ⟨after.plan document.entryUrl config, by rw [plan, done]⟩
  · constructor
    · rintro ⟨error, after, failed⟩
      rw [failed] at installed
      obtain ⟨before, diagnostic, behind, found, -, tells⟩ := announced.of_refused installed
      exact ⟨diagnostic, by simp [found], error, tells⟩
    · rintro ⟨diagnostic, membership, stops⟩
      cases stopped : obstacle (fun _ => false) document.scenarios with
      | none =>
          rw [stopped] at announced
          exact (announced.silent diagnostic membership stops).elim
      | some error =>
          rw [stopped] at installed
          exact ⟨error, (document.install .empty).2, Prod.ext installed rfl⟩
  · intro error after failed
    rw [failed] at installed
    exact announced.of_refused installed

/-- A purchase that waits for a payment yet to be told of, and for an address that is not given. -/
def tangled : Document :=
  { entryUrl := ""
    scenarios := [
      { name := "Buying"
        dependsOn := ["Buying", "Paying"]
        steps := [{ voice := .when, action := .reached "the till" none none }] },
      { name := "Paying", dependsOn := ["Lending"], steps := [] }] }

/-- Of the many things that are wrong with the purchase, the installation comes upon the scenario
that depends on itself. -/
theorem tangled_refused :
    (tangled.diagnostics.filter Diagnostic.isError).length = 5 ∧
      (tangled.install .empty).1 = .error (.unknownScenario "Buying") ∧
      ∃ before diagnostic behind,
        tangled.diagnostics = before ++ diagnostic :: behind ∧
        (∀ earlier ∈ before, ¬earlier.Stops) ∧
        diagnostic.Tells (.unknownScenario "Buying") :=
  ⟨by decide +kernel, rfl,
    tangled.diagnostics_predict_install.2.2 (.unknownScenario "Buying")
      (tangled.install .empty).2 rfl⟩

end Document

end Rehearsal

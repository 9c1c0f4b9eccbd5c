import Mathlib.Data.Finset.Card
import Rehearsal.Proofs.Document.Attribution

/-!
Names that are used again.

One who looks through a document remembers the names of the scenarios and those of the notes that
have been met, and warns of each entry that bears one of them.  So there are as many warnings as
there are entries beyond the first of each name, each of them at such an entry, and nothing else in
the document makes a difference to them.
-/

namespace Rehearsal

section Repeats

variable {α : Type} {name : α → String}

/-- The entries that bear a known name: one that is known from the beginning, or that of an entry
before them. -/
def repeats (name : α → String) : List String → List α → List α
  | _, [] => []
  | known, entry :: rest =>
      (if name entry ∈ known then [entry] else []) ++ repeats name (name entry :: known) rest

theorem repeats_singleton (known : List String) (entry : α) :
    repeats name known [entry] = if name entry ∈ known then [entry] else [] :=
  List.append_nil _

theorem repeats_append (known : List String) (front back : List α) :
    repeats name known (front ++ back) =
      repeats name known front ++ repeats name ((front.map name).reverse ++ known) back := by
  induction front generalizing known with
  | nil => rfl
  | cons entry rest inductionHypothesis =>
      rw [List.cons_append, repeats, repeats, inductionHypothesis]
      simp

theorem card_cons_of_known {known : List String} {first : String} (again : first ∈ known) :
    (first :: known).toFinset.card = known.toFinset.card := by
  rw [List.toFinset_cons, Finset.insert_eq_of_mem (List.mem_toFinset.mpr again)]

theorem card_cons_of_fresh {known : List String} {first : String} (fresh : first ∉ known) :
    (first :: known).toFinset.card = known.toFinset.card + 1 := by
  rw [List.toFinset_cons,
    Finset.card_insert_of_notMem fun inside => fresh (List.mem_toFinset.mp inside)]

/-- Each entry is a repeat or brings a new name. -/
theorem length_repeats_add_card (known : List String) (entries : List α) :
    (repeats name known entries).length + ((entries.map name).reverse ++ known).toFinset.card =
      entries.length + known.toFinset.card := by
  induction entries generalizing known with
  | nil => simp [repeats]
  | cons entry rest inductionHypothesis =>
      have others := inductionHypothesis (name entry :: known)
      rw [repeats, List.length_append, List.map_cons, List.reverse_cons, List.append_assoc,
        List.singleton_append, List.length_cons, Nat.add_assoc, others]
      by_cases again : name entry ∈ known
      · rw [if_pos again, card_cons_of_known again, List.length_singleton]
        omega
      · rw [if_neg again, card_cons_of_fresh again, List.length_nil]
        omega

end Repeats

/-- What it is that bears a name for a second time. -/
inductive Repetition where
  | scenario
  | note
  deriving DecidableEq, Repr

/-- The words in which a warning of such a thing ends. -/
def Repetition.ending : Repetition → String
  | .scenario => "' is defined more than once; the last definition wins"
  | .note => "' is recorded more than once; later values overwrite earlier ones"

/-- The diagnostic is a warning of such a thing, as its words say. -/
def Diagnostic.warnsOf (kind : Repetition) (diagnostic : Diagnostic) : Bool :=
  diagnostic.level = .warning &&
    kind.ending.toList.isSuffixOf diagnostic.message.toList

namespace Finding

/-- What it is that a finding says to be there once more. -/
def repetition? : Finding → Option Repetition
  | .redefined _ => some .scenario
  | .notedAgain _ => some .note
  | _ => none

theorem ends_append (text ending : String) :
    ending.toList.isSuffixOf (text ++ ending).toList = true := by
  rw [List.isSuffixOf_iff_suffix, String.toList_append]
  exact List.suffix_append _ _

/-- Of two endings of one text the shorter is an ending of the longer. -/
theorem not_ends_append (ending rest : String)
    (apart : ¬ ending.toList <:+ rest.toList ∧ ¬ rest.toList <:+ ending.toList) (text : String) :
    ending.toList.isSuffixOf (text ++ rest).toList = false := by
  rw [Bool.eq_false_iff, ne_eq, List.isSuffixOf_iff_suffix, String.toList_append]
  intro found
  rcases List.suffix_or_suffix_of_suffix found (List.suffix_append _ _) with inner | outer
  · exact apart.1 inner
  · exact apart.2 outer

/-- The last words of a warning show whether it says that something is there once more. -/
theorem ends_message (kind : Repetition) {finding : Finding} (warning : finding.level = .warning) :
    kind.ending.toList.isSuffixOf finding.message.toList =
      decide (finding.repetition? = some kind) := by
  cases finding with
  | redefined name =>
      cases kind with
      | scenario => exact ends_append _ Repetition.scenario.ending
      | note => exact not_ends_append _ Repetition.scenario.ending (by decide) _
  | notedAgain name =>
      cases kind with
      | scenario => exact not_ends_append _ Repetition.note.ending (by decide) _
      | note => exact ends_append _ Repetition.note.ending
  | oddSubmit value | oddExpectation value =>
      cases kind with
      | scenario => exact not_ends_append _ _ (by decide) _
      | note => exact not_ends_append _ _ (by decide) _
  | noSteps | bothUrls | noFields => cases kind <;> decide
  | entryUrlBlank | scenarioNameBlank | definedLater | undefined | blank | badUrl => cases warning

theorem warnsOf_at (kind : Repetition) (finding : Finding) (location : Option String) :
    (finding.at location).warnsOf kind = decide (finding.repetition? = some kind) := by
  cases level : finding.level with
  | warning =>
      rw [← ends_message kind level, Diagnostic.warnsOf, Finding.at, level]
      rfl
  | error =>
      have other : finding.repetition? = none := by
        cases finding with
        | redefined | notedAgain => cases level
        | _ => rfl
      rw [Diagnostic.warnsOf, Finding.at, level, other]
      rfl

/-- The findings that say of something of this kind that it is there once more. -/
def sift (kind : Repetition) (findings : List Finding) : List Finding :=
  findings.filter fun finding => decide (finding.repetition? = some kind)

variable {kind : Repetition}

theorem sift_append (front back : List Finding) :
    sift kind (front ++ back) = sift kind front ++ sift kind back :=
  List.filter_append _ _

/-- Findings of other kinds are sifted out. -/
theorem sift_eq_nil {findings : List Finding}
    (others : ∀ finding ∈ findings, finding.repetition? = none) : sift kind findings = [] := by
  rw [sift, List.filter_eq_nil_iff]
  intro finding membership
  rw [others finding membership]
  simp

theorem sift_foundIf_of_other {finding : Finding} (other : finding.repetition? ≠ some kind)
    (condition : Bool) : sift kind (foundIf condition finding) = [] := by
  cases condition <;> simp [sift, foundIf, other]

theorem sift_foundIf_of_same {finding : Finding} (same : finding.repetition? = some kind)
    (condition : Bool) : sift kind (foundIf condition finding) = foundIf condition finding := by
  cases condition <;> simp [sift, foundIf, same]

theorem foundIf_contains (names : List String) (name : String) (finding : Finding) :
    foundIf (names.contains name) finding = if name ∈ names then [finding] else [] := by
  rw [foundIf]
  simp only [List.contains_iff_mem]

theorem sift_blankField (field value : String) : sift kind (blankField field value) = [] :=
  sift_foundIf_of_other (by rintro ⟨⟩) _

/-- What is told is sifted as what has been found. -/
theorem filter_warnsOf_map_at (findings : List Finding) (location : Option String) :
    (findings.map (Finding.at location)).filter (Diagnostic.warnsOf kind) =
      (sift kind findings).map (Finding.at location) := by
  rw [List.filter_map, sift]
  congr 1
  apply List.filter_congr
  intro finding _
  exact finding.warnsOf_at kind location

end Finding

open Finding

theorem sift_dependencyFindings (kind : Repetition) (all defined dependsOn : List String) :
    sift kind (dependencyFindings all defined dependsOn) = [] := by
  apply sift_eq_nil
  intro finding membership
  obtain ⟨name, -, found⟩ := List.mem_flatMap.mp membership
  split at found
  · cases found
  split at found
  all_goals
    cases List.mem_singleton.mp found
    rfl

/-- Whatever a scenario depends on, and whatever else is wrong with it, it is warned of if its name
is known. -/
theorem ScenarioSpec.sift_findings (all defined : List String) (spec : ScenarioSpec) :
    sift .scenario (spec.findings all defined) =
      foundIf (defined.contains spec.name) (.redefined spec.name) := by
  simp only [findings, sift_append, sift_dependencyFindings]
  rw [sift_foundIf_of_other (by rintro ⟨⟩), sift_foundIf_of_same rfl,
    sift_foundIf_of_other (by rintro ⟨⟩), List.nil_append, List.append_nil, List.append_nil]

theorem ScenarioSpec.sift_findings_note (all defined : List String) (spec : ScenarioSpec) :
    sift .note (spec.findings all defined) = [] := by
  simp only [findings, sift_append, sift_dependencyFindings]
  rw [sift_foundIf_of_other (by rintro ⟨⟩), sift_foundIf_of_other (by rintro ⟨⟩),
    sift_foundIf_of_other (by rintro ⟨⟩)]
  rfl

namespace ActionSpec

/-- Whatever else is wrong with an action, it is warned of if it notes something down under a name
that is known, and at no other time. -/
theorem sift_findings (kind : Repetition) (notes : List String) (spec : ActionSpec) :
    sift kind (spec.findings notes) =
      match kind, spec.note? with
      | .note, some note => foundIf (notes.contains note) (.notedAgain note)
      | _, _ => [] := by
  cases spec with
  | reached message url urlRegex =>
      have others : sift kind ((reached message url urlRegex).findings notes) = [] := by
        unfold findings
        rw [sift_append, sift_foundIf_of_other (by rintro ⟨⟩)]
        split <;> rfl
      rw [others]
      cases kind <;> rfl
  | fill message selector fields autoSubmit =>
      have others : sift kind ((fill message selector fields autoSubmit).findings notes) = [] := by
        unfold findings
        rw [sift_append, sift_append, sift_blankField, sift_foundIf_of_other (by rintro ⟨⟩)]
        split <;> rfl
      rw [others]
      cases kind <;> rfl
  | seeTheValueOf message selector expected =>
      rw [findings, sift_append, sift_blankField, sift_foundIf_of_other (by rintro ⟨⟩)]
      cases kind <;> rfl
  | noteDown message selector property =>
      rw [findings, sift_append, sift_append, sift_blankField, sift_blankField]
      cases kind with
      | scenario => exact sift_foundIf_of_other (by rintro ⟨⟩) _
      | note => exact sift_foundIf_of_same rfl _
  | _ => exact (sift_blankField _ _).trans (by cases kind <;> rfl)

theorem eq_noteDown_of_note? {spec : ActionSpec} {note : String}
    (noted : spec.note? = some note) :
    ∃ selector property, spec = .noteDown note selector property := by
  cases spec with
  | noteDown message selector property =>
      cases noted
      exact ⟨selector, property, rfl⟩
  | _ => cases noted

end ActionSpec

/-- A step that notes something down, and where it stands. -/
structure Noting where
  scenario : String
  number : Nat
  note : String
  deriving DecidableEq, Repr

/-- The warning of something that is noted down once more. -/
def Noting.again (noting : Noting) : Diagnostic :=
  { level := .warning
    location := some ("scenario " ++ noting.scenario ++ " > step " ++ toString noting.number ++
      " (note_down)")
    message := "note '" ++ noting.note ++
      "' is recorded more than once; later values overwrite earlier ones" }

/-- The warning of a scenario that is defined once more. -/
def redefinition (name : String) : Diagnostic :=
  { level := .warning
    location := some ("scenario " ++ name)
    message := "scenario '" ++ name ++
      "' is defined more than once; the last definition wins" }

/-- A step as one that notes something down, if it does. -/
def StepSpec.noting? (scenario : String) (number : Nat) (step : StepSpec) : Option Noting :=
  step.action.note?.map (Noting.mk scenario number)

/-- Those of the steps that note something down; the first of the steps has the given number. -/
def notingsFrom (scenario : String) : Nat → List StepSpec → List Noting
  | _, [] => []
  | number, step :: rest =>
      (step.noting? scenario number).toList ++ notingsFrom scenario (number + 1) rest

def ScenarioSpec.notings (spec : ScenarioSpec) : List Noting :=
  notingsFrom spec.name 1 spec.steps

/-- The steps of a document that note something down, in order. -/
def Document.notings (document : Document) : List Noting :=
  document.scenarios.flatMap ScenarioSpec.notings

theorem notes_notingsFrom (scenario : String) (number : Nat) (steps : List StepSpec) :
    (notingsFrom scenario number steps).map Noting.note =
      steps.filterMap fun step => step.action.note? := by
  induction steps generalizing number with
  | nil => rfl
  | cons step rest inductionHypothesis =>
      rw [notingsFrom, List.map_append, inductionHypothesis, StepSpec.noting?,
        List.filterMap_cons]
      cases step.action.note? <;> rfl

theorem Document.notes_notings (document : Document) :
    document.notings.map Noting.note =
      (notedIn (document.scenarios.flatMap ScenarioSpec.steps)).reverse := by
  rw [notedIn, List.reverse_reverse, notings, List.map_flatMap, List.filterMap_flatMap]
  congr 1
  funext spec
  exact notes_notingsFrom spec.name 1 spec.steps

/-- Of a step it is warned if it notes something down under a known name. -/
theorem StepSpec.filter_findings (scenario : ScenarioSpec) (number : Nat) (notes : List String)
    (step : StepSpec) :
    ((step.action.findings notes).map
        (Finding.at (some (step.location scenario number)))).filter (Diagnostic.warnsOf .note) =
      (repeats Noting.note notes (step.noting? scenario.name number).toList).map Noting.again := by
  rw [filter_warnsOf_map_at, ActionSpec.sift_findings, noting?]
  cases noted : step.action.note? with
  | none => rfl
  | some note =>
      obtain ⟨selector, property, action⟩ := ActionSpec.eq_noteDown_of_note? noted
      have place : step.location scenario number =
          "scenario " ++ scenario.name ++ " > step " ++ toString number ++ " (note_down)" := by
        have words : " (note_down)" = " (" ++ "note_down" ++ ")" := rfl
        rw [StepSpec.location, action, ActionSpec.name, words, ScenarioSpec.location]
        simp only [String.append_assoc]
      rw [Option.map_some, Option.toList_some, repeats_singleton, place]
      simp only [foundIf_contains]
      by_cases again : note ∈ notes
      · rw [if_pos again, if_pos again]
        rfl
      · rw [if_neg again, if_neg again]
        rfl

/-- Steps are looked through with the notes before them, and leave their own behind. -/
theorem stepDiagnostics_repeats (scenario : ScenarioSpec) (number : Nat) (notes : List String)
    (steps : List StepSpec) :
    (stepDiagnostics scenario number notes steps).1.filter (Diagnostic.warnsOf .note) =
        (repeats Noting.note notes (notingsFrom scenario.name number steps)).map Noting.again ∧
      (stepDiagnostics scenario number notes steps).2 =
        ((notingsFrom scenario.name number steps).map Noting.note).reverse ++ notes := by
  induction steps generalizing number notes with
  | nil => exact ⟨rfl, rfl⟩
  | cons step rest inductionHypothesis =>
      obtain ⟨others, left⟩ := inductionHypothesis (number + 1) (step.action.note?.toList ++ notes)
      -- What the step adds to the notes is the name by which it would be warned of.
      have own : ((step.noting? scenario.name number).toList.map Noting.note).reverse =
          step.action.note?.toList := by
        rw [StepSpec.noting?]
        cases step.action.note? <;> rfl
      rw [stepDiagnostics, notingsFrom]
      constructor
      · rw [List.filter_append, others, step.filter_findings, repeats_append, List.map_append, own]
      · rw [left, List.map_append, List.reverse_append, own, List.append_assoc]

theorem StepSpec.filter_findings_scenario (location : Option String) (notes : List String)
    (step : StepSpec) :
    ((step.action.findings notes).map (Finding.at location)).filter
      (Diagnostic.warnsOf .scenario) = [] := by
  rw [filter_warnsOf_map_at, ActionSpec.sift_findings]
  rfl

theorem stepDiagnostics_filter_scenario (scenario : ScenarioSpec) (number : Nat)
    (notes : List String) (steps : List StepSpec) :
    (stepDiagnostics scenario number notes steps).1.filter (Diagnostic.warnsOf .scenario) = [] := by
  induction steps generalizing number notes with
  | nil => rfl
  | cons step rest inductionHypothesis =>
      rw [stepDiagnostics, List.filter_append, inductionHypothesis, step.filter_findings_scenario]
      rfl

/-- Of a scenario it is warned if its name is known. -/
theorem ScenarioSpec.filter_findings (all defined : List String) (spec : ScenarioSpec) :
    ((spec.findings all defined).map (Finding.at (some spec.location))).filter
        (Diagnostic.warnsOf .scenario) =
      if spec.name ∈ defined then [redefinition spec.name] else [] := by
  rw [filter_warnsOf_map_at, spec.sift_findings, foundIf_contains]
  split <;> rfl

theorem scenarioDiagnostics_redefinitions (all defined notes : List String)
    (specs : List ScenarioSpec) :
    (scenarioDiagnostics all defined notes specs).filter (Diagnostic.warnsOf .scenario) =
      (repeats id defined (specs.map ScenarioSpec.name)).map redefinition := by
  induction specs generalizing defined notes with
  | nil => rfl
  | cons spec rest inductionHypothesis =>
      rw [scenarioDiagnostics, List.filter_append, List.filter_append, inductionHypothesis,
        stepDiagnostics_filter_scenario, spec.filter_findings, List.map_cons, repeats,
        List.map_append, List.append_nil, id]
      split <;> rfl

theorem scenarioDiagnostics_renotings (all defined notes : List String)
    (specs : List ScenarioSpec) :
    (scenarioDiagnostics all defined notes specs).filter (Diagnostic.warnsOf .note) =
      (repeats Noting.note notes (specs.flatMap ScenarioSpec.notings)).map Noting.again := by
  induction specs generalizing defined notes with
  | nil => rfl
  | cons spec rest inductionHypothesis =>
      obtain ⟨steps, left⟩ := stepDiagnostics_repeats spec 1 notes spec.steps
      rw [scenarioDiagnostics, List.filter_append, List.filter_append, inductionHypothesis, steps,
        left, filter_warnsOf_map_at, spec.sift_findings_note, List.flatMap_cons, repeats_append,
        List.map_append]
      rfl

namespace Document

variable (document : Document)

theorem filter_document (kind : Repetition) :
    (document.told .document).filter (Diagnostic.warnsOf kind) = [] := by
  rw [told, filter_warnsOf_map_at, sift_foundIf_of_other (by rintro ⟨⟩)]
  rfl

theorem redefinitions_eq :
    document.diagnostics.filter (Diagnostic.warnsOf .scenario) =
      (repeats id [] (document.scenarios.map ScenarioSpec.name)).map redefinition := by
  have first := document.filter_document .scenario
  rw [told] at first
  rw [diagnostics, List.filter_append, first, scenarioDiagnostics_redefinitions, List.nil_append]

theorem renotings_eq :
    document.diagnostics.filter (Diagnostic.warnsOf .note) =
      (repeats Noting.note [] document.notings).map Noting.again := by
  have first := document.filter_document .note
  rw [told] at first
  rw [diagnostics, List.filter_append, first, scenarioDiagnostics_renotings, List.nil_append]
  rfl

theorem filter_told_scenario {i : Nat} {spec : ScenarioSpec}
    (there : document.scenarios[i]? = some spec) :
    (document.told (.scenario i)).filter (Diagnostic.warnsOf .scenario) =
      if spec.name ∈ (document.scenarios.take i).map ScenarioSpec.name then
        [redefinition spec.name]
      else [] := by
  simp only [told, there, spec.filter_findings, List.mem_reverse]

theorem filter_told_step {i j : Nat} {spec : ScenarioSpec} {step : StepSpec}
    (there : document.scenarios[i]? = some spec) (here : spec.steps[j]? = some step) :
    (document.told (.step i j)).filter (Diagnostic.warnsOf .note) =
      (repeats Noting.note
        (notedIn ((document.scenarios.take i).flatMap ScenarioSpec.steps ++ spec.steps.take j))
        (step.noting? spec.name (j + 1)).toList).map Noting.again := by
  simp only [told, there, ScenarioSpec.toldOfStep, here, step.filter_findings, notedIn_append]

theorem exists_of_mem_told_step {i j : Nat} {diagnostic : Diagnostic}
    (told : diagnostic ∈ document.told (.step i j)) :
    ∃ spec step notes location, document.scenarios[i]? = some spec ∧
      spec.steps[j]? = some step ∧
      diagnostic ∈ (step.action.findings notes).map (Finding.at location) := by
  simp only [Document.told, ScenarioSpec.toldOfStep] at told
  split at told
  next spec there =>
    split at told
    next step here => exact ⟨spec, step, _, _, there, here, told⟩
    next => cases told
  next => cases told

theorem scenario_of_warnsOf {subject : Subject} {diagnostic : Diagnostic}
    (told : diagnostic ∈ document.told subject) (warns : diagnostic.warnsOf .scenario = true) :
    ∃ i, subject = .scenario i := by
  cases subject with
  | document =>
      have kept := List.mem_filter.mpr ⟨told, warns⟩
      rw [filter_document] at kept
      cases kept
  | scenario i => exact ⟨i, rfl⟩
  | step i j =>
      obtain ⟨spec, step, notes, location, -, -, found⟩ := document.exists_of_mem_told_step told
      have kept := List.mem_filter.mpr ⟨found, warns⟩
      rw [step.filter_findings_scenario] at kept
      cases kept

theorem noting_of_warnsOf {subject : Subject} {diagnostic : Diagnostic}
    (told : diagnostic ∈ document.told subject) (warns : diagnostic.warnsOf .note = true) :
    ∃ i j spec step, subject = .step i j ∧ document.scenarios[i]? = some spec ∧
      spec.steps[j]? = some step ∧
      ∃ note selector property, step.action = .noteDown note selector property := by
  cases subject with
  | document =>
      have kept := List.mem_filter.mpr ⟨told, warns⟩
      rw [filter_document] at kept
      cases kept
  | scenario i =>
      simp only [Document.told] at told
      split at told
      next spec _ =>
        have kept := List.mem_filter.mpr ⟨told, warns⟩
        rw [filter_warnsOf_map_at, spec.sift_findings_note] at kept
        cases kept
      next => cases told
  | step i j =>
      obtain ⟨spec, step, notes, location, there, here, found⟩ :=
        document.exists_of_mem_told_step told
      refine ⟨i, j, spec, step, rfl, there, here, ?_⟩
      have kept := List.mem_filter.mpr ⟨found, warns⟩
      rw [filter_warnsOf_map_at, ActionSpec.sift_findings] at kept
      cases noted : step.action.note? with
      | none =>
          rw [noted] at kept
          cases kept
      | some note => exact ⟨note, ActionSpec.eq_noteDown_of_note? noted⟩

/-- Of a document it is warned wherever a name is used again and nowhere else, whatever else there
is to say about it. -/
structure WarnsOfRepetitions (document : Document) : Prop where
  ordered : document.diagnostics = document.subjects.flatMap document.told
  /-- A scenario is warned of if an earlier one bears its name. -/
  redefined : ∀ (i : Nat) (spec : ScenarioSpec), document.scenarios[i]? = some spec →
    (document.told (.scenario i)).filter (Diagnostic.warnsOf .scenario) =
      if spec.name ∈ (document.scenarios.take i).map ScenarioSpec.name then
        [redefinition spec.name]
      else []
  redefined_only : ∀ subject, ∀ diagnostic ∈ document.told subject,
    diagnostic.warnsOf .scenario = true → ∃ i, subject = .scenario i
  /-- A step that notes something down is warned of if an earlier one, be it in an earlier scenario
  or in its own, notes something down under the same name. -/
  renoted : ∀ (i j : Nat) (spec : ScenarioSpec) (step : StepSpec) note selector property,
    document.scenarios[i]? = some spec → spec.steps[j]? = some step →
    step.action = .noteDown note selector property →
      (document.told (.step i j)).filter (Diagnostic.warnsOf .note) =
        if note ∈ notedIn
            ((document.scenarios.take i).flatMap ScenarioSpec.steps ++ spec.steps.take j) then
          [{ scenario := spec.name, number := j + 1, note : Noting }.again]
        else []
  renoted_only : ∀ subject, ∀ diagnostic ∈ document.told subject,
    diagnostic.warnsOf .note = true →
      ∃ (i j : Nat) (spec : ScenarioSpec) (step : StepSpec), subject = .step i j ∧
        document.scenarios[i]? = some spec ∧ spec.steps[j]? = some step ∧
        ∃ note selector property, step.action = .noteDown note selector property
  /-- There are as many scenarios as warnings of scenarios and names of scenarios. -/
  scenarios : document.diagnostics.countP (Diagnostic.warnsOf .scenario) +
      (document.scenarios.map ScenarioSpec.name).toFinset.card = document.scenarios.length
  /-- There are as many steps that note something down as warnings of notes and names of notes. -/
  notes : document.diagnostics.countP (Diagnostic.warnsOf .note) +
      (notedIn (document.scenarios.flatMap ScenarioSpec.steps)).toFinset.card =
        (notedIn (document.scenarios.flatMap ScenarioSpec.steps)).length
  /-- Only the names of the scenarios make a difference. -/
  scenarios_alone : ∀ other : Document,
    other.scenarios.map ScenarioSpec.name = document.scenarios.map ScenarioSpec.name →
      other.diagnostics.filter (Diagnostic.warnsOf .scenario) =
        document.diagnostics.filter (Diagnostic.warnsOf .scenario)
  /-- Only the steps that note something down make a difference. -/
  notes_alone : ∀ other : Document, other.notings = document.notings →
    other.diagnostics.filter (Diagnostic.warnsOf .note) =
      document.diagnostics.filter (Diagnostic.warnsOf .note)

theorem warns_of_repetitions : document.WarnsOfRepetitions where
  ordered := document.diagnostics_eq
  redefined i spec there := document.filter_told_scenario there
  redefined_only subject diagnostic told warns := document.scenario_of_warnsOf told warns
  renoted := by
    intro i j spec step note selector property there here action
    have noting : step.noting? spec.name (j + 1) = some ⟨spec.name, j + 1, note⟩ := by
      rw [StepSpec.noting?, action]
      rfl
    rw [document.filter_told_step there here, noting, Option.toList_some, repeats_singleton]
    split <;> rfl
  renoted_only subject diagnostic told warns := document.noting_of_warnsOf told warns
  scenarios := by
    rw [List.countP_eq_length_filter, redefinitions_eq, List.length_map]
    simpa using @length_repeats_add_card _ id [] (document.scenarios.map ScenarioSpec.name)
  notes := by
    have counted := @length_repeats_add_card _ Noting.note [] document.notings
    have amount := congrArg List.length document.notes_notings
    rw [List.length_map, List.length_reverse] at amount
    rw [notes_notings, List.reverse_reverse, List.append_nil, amount] at counted
    rw [List.countP_eq_length_filter, renotings_eq, List.length_map, counted]
    rfl
  scenarios_alone := by
    intro other same
    rw [redefinitions_eq, redefinitions_eq, same]
  notes_alone := by
    intro other same
    rw [renotings_eq, renotings_eq, same]

/-- A note that is taken twice, by the steps of two scenarios of one name. -/
example :
    let step : StepSpec := { voice := .given, action := .noteDown "link" "a" "href" }
    let scenario : ScenarioSpec := { name := "Same", dependsOn := [], steps := [step] }
    ({ entryUrl := "/", scenarios := [scenario, scenario] } : Document).diagnostics =
      [redefinition "Same", Noting.again ⟨"Same", 1, "link"⟩] := by decide +kernel

end Document

end Rehearsal

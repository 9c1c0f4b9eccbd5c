import Mathlib.Data.List.Forall2
import Rehearsal.Proofs.Document.Attribution
import Rehearsal.Proofs.Document.Prediction

/-!
Documents that go on.

Scenarios that are put behind a document leave what is said of it as it is, and what is said of them
comes last.  There is one exception: of a name that was nowhere defined it is said that it is
defined later, once one of the scenarios bears it.
-/

namespace Rehearsal

/-- What becomes of a diagnostic once scenarios of these names stand behind the document. -/
structure Diagnostic.Becomes (names : List String) (diagnostic after : Diagnostic) : Prop where
  level : after.level = diagnostic.level
  location : after.location = diagnostic.location
  undefined : ∀ name, diagnostic.message = "depends on undefined scenario '" ++ name ++ "'" →
    after.message =
      if name ∈ names then
        "depends on '" ++ name ++ "', which is only defined later in the document"
      else diagnostic.message
  other : (∀ name, diagnostic.message ≠ "depends on undefined scenario '" ++ name ++ "'") →
    after.message = diagnostic.message

/-- The document with more scenarios behind its own. -/
def Document.followedBy (document : Document) (more : List ScenarioSpec) : Document :=
  { document with scenarios := document.scenarios ++ more }

theorem last_append {rest : String} {last : Char} (ends : rest.toList.getLast? = some last)
    (text : String) : (text ++ rest).toList.getLast? = some last := by
  rw [String.toList_append, List.getLast?_append, ends]
  rfl

namespace Finding

theorem head_message_undefined (name : String) :
    (undefined name).message.toList.head? = some 'd' :=
  head_append (head_append (by decide) _) _

theorem last_message_undefined (name : String) :
    (undefined name).message.toList.getLast? = some '\'' :=
  last_append (by decide) _

/-- No other finding is worded like one of a name that is nowhere defined: it begins with another
letter, or it ends with one. -/
theorem eq_undefined_of_message {finding : Finding} {name : String}
    (same : finding.message = (undefined name).message) : finding = .undefined name := by
  have head := head_message_undefined name
  have last := last_message_undefined name
  rw [← same] at head last
  cases finding with
  | undefined other =>
      unfold message at same
      rw [(String.append_right_inj _).mp ((String.append_left_inj _).mp same)]
  | definedLater other =>
      have ends : (definedLater other).message.toList.getLast? = some 't' :=
        last_append (by decide) _
      cases ends.symm.trans last
  | blank field =>
      have ends : (blank field).message.toList.getLast? = some 'y' := last_append (by decide) _
      cases ends.symm.trans last
  | entryUrlBlank | scenarioNameBlank | noSteps | bothUrls | noFields =>
      exact absurd head (by decide)
  | redefined other =>
      have begins : (redefined other).message.toList.head? = some 's' :=
        head_append (head_append (by decide) _) _
      cases begins.symm.trans head
  | notedAgain other =>
      have begins : (notedAgain other).message.toList.head? = some 'n' :=
        head_append (head_append (by decide) _) _
      cases begins.symm.trans head
  | oddSubmit value =>
      have begins : (oddSubmit value).message.toList.head? = some 'a' :=
        head_append (head_append (by decide) _) _
      cases begins.symm.trans head
  | oddExpectation value =>
      have begins : (oddExpectation value).message.toList.head? = some 'e' :=
        head_append (head_append (by decide) _) _
      cases begins.symm.trans head
  | badUrl fault =>
      have begins : (badUrl fault).message.toList.head? = some 'i' := head_append (by decide) _
      cases begins.symm.trans head

variable {names : List String}

theorem at_becomes {finding : Finding} (other : ∀ name ∈ names, finding ≠ .undefined name)
    (location : Option String) :
    (finding.at location).Becomes names (finding.at location) where
  level := rfl
  location := rfl
  undefined name worded := by
    rw [if_neg]
    intro defined
    exact other name defined (eq_undefined_of_message worded)
  other _ := rfl

theorem undefined_becomes {name : String} (defined : name ∈ names) (location : Option String) :
    ((undefined name).at location).Becomes names ((definedLater name).at location) where
  level := rfl
  location := rfl
  undefined other worded := by
    obtain rfl : other = name := by
      have same : undefined name = undefined other := eq_undefined_of_message worded
      exact (undefined.inj same).symm
    rw [if_pos defined]
    rfl
  other different := (different name rfl).elim

/-- Findings of another kind are still made, and in the same words. -/
theorem map_at_become {findings : List Finding}
    (others : ∀ finding ∈ findings, ∀ name, finding ≠ .undefined name)
    (location : Option String) :
    List.Forall₂ (Diagnostic.Becomes names) (findings.map (Finding.at location))
      (findings.map (Finding.at location)) := by
  rw [List.forall₂_map_left_iff, List.forall₂_map_right_iff, List.forall₂_same]
  intro finding membership
  exact at_becomes (fun name _ => others finding membership name) location

theorem foundIf_ne_undefined {finding : Finding} (other : ∀ name, finding ≠ .undefined name)
    (condition : Bool) :
    ∀ found ∈ foundIf condition finding, ∀ name, found ≠ .undefined name := by
  cases condition with
  | false => simp [foundIf]
  | true => simpa [foundIf] using other

end Finding

theorem ActionSpec.findings_ne_undefined (notes : List String) (spec : ActionSpec) :
    ∀ finding ∈ spec.findings notes, ∀ name, finding ≠ .undefined name := by
  have blank : ∀ field value, ∀ finding ∈ blankField field value, ∀ name,
      finding ≠ .undefined name :=
    fun field value => Finding.foundIf_ne_undefined (by rintro _ ⟨⟩) _
  cases spec with
  | reached message url urlRegex =>
      unfold findings
      rw [List.forall_mem_append]
      refine ⟨Finding.foundIf_ne_undefined (by rintro _ ⟨⟩) _, ?_⟩
      split <;> simp
  | fill message selector fields autoSubmit =>
      unfold findings
      rw [List.forall_mem_append, List.forall_mem_append]
      refine ⟨⟨blank _ _, Finding.foundIf_ne_undefined (by rintro _ ⟨⟩) _⟩, ?_⟩
      split <;> simp
  | seeTheValueOf message selector expected =>
      rw [findings, List.forall_mem_append]
      exact ⟨blank _ _, Finding.foundIf_ne_undefined (by rintro _ ⟨⟩) _⟩
  | noteDown message selector property =>
      rw [findings, List.forall_mem_append, List.forall_mem_append]
      exact ⟨⟨blank _ _, blank _ _⟩, Finding.foundIf_ne_undefined (by rintro _ ⟨⟩) _⟩
  | _ => exact blank _ _

/-- Only a name that is nowhere else is looked for among the names that come behind. -/
theorem dependencyFindings_become (all defined names dependsOn : List String)
    (location : Option String) :
    List.Forall₂ (Diagnostic.Becomes names)
      ((dependencyFindings all defined dependsOn).map (Finding.at location))
      ((dependencyFindings (all ++ names) defined dependsOn).map (Finding.at location)) := by
  induction dependsOn with
  | nil => exact .nil
  | cons name rest inductionHypothesis =>
      unfold dependencyFindings at inductionHypothesis ⊢
      rw [List.flatMap_cons, List.flatMap_cons, List.map_append, List.map_append]
      refine List.rel_append ?_ inductionHypothesis
      by_cases known : name ∈ defined
      · simp [known]
      by_cases inside : name ∈ all
      · have still : ((Finding.definedLater name).at location).Becomes names
            ((Finding.definedLater name).at location) :=
          Finding.at_becomes (by rintro _ _ ⟨⟩) location
        simpa [known, inside] using still
      by_cases behind : name ∈ names
      · simpa [known, inside, behind] using Finding.undefined_becomes behind location
      · have still : ((Finding.undefined name).at location).Becomes names
            ((Finding.undefined name).at location) :=
          Finding.at_becomes (by rintro _ defined ⟨⟩; exact behind defined) location
        simpa [known, inside, behind] using still

theorem ScenarioSpec.findings_become (all defined names : List String) (spec : ScenarioSpec)
    (location : Option String) :
    List.Forall₂ (Diagnostic.Becomes names)
      ((spec.findings all defined).map (Finding.at location))
      ((spec.findings (all ++ names) defined).map (Finding.at location)) := by
  have still : ∀ condition finding, (∀ name, finding ≠ .undefined name) →
      List.Forall₂ (Diagnostic.Becomes names)
        ((foundIf condition finding).map (Finding.at location))
        ((foundIf condition finding).map (Finding.at location)) :=
    fun condition finding other =>
      Finding.map_at_become (Finding.foundIf_ne_undefined other condition) location
  simp only [findings, List.map_append]
  exact List.rel_append (List.rel_append
    (List.rel_append (still _ _ (by rintro _ ⟨⟩)) (still _ _ (by rintro _ ⟨⟩)))
    (dependencyFindings_become all defined names spec.dependsOn location))
    (still _ _ (by rintro _ ⟨⟩))

namespace Document

variable (document : Document) (more : List ScenarioSpec)

/-- What can be spoken of stays in its place, and the further scenarios come behind. -/
theorem subjects_followedBy :
    (document.followedBy more).subjects =
      document.subjects ++
        (more.mapIdx fun k => subjectsOf (document.scenarios.length + k)).flatten := by
  simp [subjects, followedBy, List.mapIdx_append, Nat.add_comm]

theorem place_lt_of_mem_subjects {subject : Subject} (inside : subject ∈ document.subjects)
    {i : Nat} (place : subject = .scenario i ∨ ∃ j, subject = .step i j) :
    i < document.scenarios.length := by
  rcases List.mem_cons.mp inside with rfl | part
  · rcases place with ⟨⟨⟩⟩ | ⟨j, ⟨⟩⟩
  obtain ⟨subjects, listed, member⟩ := List.mem_flatten.mp part
  obtain ⟨k, short, rfl⟩ := List.mem_mapIdx.mp listed
  rcases place with rfl | ⟨j, rfl⟩
  all_goals
    simp [subjectsOf] at member
    omega

theorem told_become {subject : Subject} (inside : subject ∈ document.subjects) :
    List.Forall₂ (Diagnostic.Becomes (more.map ScenarioSpec.name)) (document.told subject)
      ((document.followedBy more).told subject) := by
  have place : ∀ i, (subject = .scenario i ∨ ∃ j, subject = .step i j) →
      i < document.scenarios.length :=
    fun i => document.place_lt_of_mem_subjects inside
  cases subject with
  | document => exact Finding.map_at_become (Finding.foundIf_ne_undefined (by rintro _ ⟨⟩) _) _
  | scenario i =>
      have there := place i (.inl rfl)
      simp only [told, followedBy, List.map_append, List.getElem?_append_left there,
        List.take_append_of_le_length (Nat.le_of_lt there)]
      split
      · exact ScenarioSpec.findings_become _ _ _ _ _
      · exact .nil
  | step i j =>
      have there := place i (.inr ⟨j, rfl⟩)
      simp only [told, followedBy, List.getElem?_append_left there,
        List.take_append_of_le_length (Nat.le_of_lt there), ScenarioSpec.toldOfStep]
      split
      · split
        · exact Finding.map_at_become (ActionSpec.findings_ne_undefined _ _) _
        · exact .nil
      · exact .nil

end Document

theorem Diagnostic.countP_isError_of_become {names : List String}
    {diagnostics others : List Diagnostic}
    (become : List.Forall₂ (Diagnostic.Becomes names) diagnostics others) :
    others.countP Diagnostic.isError = diagnostics.countP Diagnostic.isError := by
  induction become with
  | nil => rfl
  | cons first _ inductionHypothesis =>
      rw [List.countP_cons, List.countP_cons, inductionHypothesis, isError, isError, first.level]

/-- What has been said of a document is still said of it when it goes on: in the same places, of
the same subjects, and but for names that are defined by now in the same words.  The rest is about
the further scenarios, and no error is ever mended by them. -/
theorem Document.diagnostics_followedBy (document : Document) (more : List ScenarioSpec) :
    ∃ kept added others,
      (document.followedBy more).diagnostics = kept ++ added ∧
      List.Forall₂ (Diagnostic.Becomes (more.map ScenarioSpec.name)) document.diagnostics kept ∧
      (document.followedBy more).subjects = document.subjects ++ others ∧
      kept = document.subjects.flatMap (document.followedBy more).told ∧
      added = others.flatMap (document.followedBy more).told ∧
      (document.diagnostics.countP Diagnostic.isError ≤
        (document.followedBy more).diagnostics.countP Diagnostic.isError) := by
  have become : List.Forall₂ (Diagnostic.Becomes (more.map ScenarioSpec.name))
      document.diagnostics (document.subjects.flatMap (document.followedBy more).told) := by
    rw [document.diagnostics_eq, List.flatMap_def, List.flatMap_def]
    refine List.rel_flatten ?_
    rw [List.forall₂_map_left_iff, List.forall₂_map_right_iff, List.forall₂_same]
    intro subject inside
    exact document.told_become more inside
  refine ⟨_, _, _, ?_, become, document.subjects_followedBy more, rfl, rfl, ?_⟩
  · rw [diagnostics_eq, subjects_followedBy, List.flatMap_append]
  · rw [diagnostics_eq (document.followedBy more), subjects_followedBy, List.flatMap_append,
      List.countP_append, Diagnostic.countP_isError_of_become become]
    exact Nat.le_add_right _ _

end Rehearsal

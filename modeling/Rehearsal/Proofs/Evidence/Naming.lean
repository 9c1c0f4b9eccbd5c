import Rehearsal.Document.Plan
import Rehearsal.Proofs.Path.Components

/-!
What the path of a picture tells.

The directory for all evidence being given, the path of a picture tells the scenario, the place of
the step in it, and what is left of its message.  As the place alone tells the steps of a scenario
apart, none of them overwrites the picture of another one.
-/

namespace Rehearsal

/-- Texts that end each at the first occurrence of a character agree if what stands before it does,
and what stands behind. -/
theorem append_cons_eq_iff {α : Type} {mark : α} {front front' back back' : List α}
    (first : mark ∉ front) (first' : mark ∉ front') :
    front ++ mark :: back = front' ++ mark :: back' ↔ front = front' ∧ back = back' := by
  induction front generalizing front' with
  | nil =>
      cases front' with
      | nil => simp
      | cons head rest =>
          rw [List.mem_cons, not_or] at first'
          simp [first'.1]
  | cons head rest inductionHypothesis =>
      rw [List.mem_cons, not_or] at first
      cases front' with
      | nil => simp [Ne.symm first.1]
      | cons head' rest' =>
          rw [List.mem_cons, not_or] at first'
          rw [List.cons_append, List.cons_append, List.cons.injEq, List.cons.injEq,
            inductionHypothesis first.2 first'.2, and_assoc]

namespace Path

/-- A name that can stand between two slashes, be it of something or not. -/
structure Part (name : String) : Prop where
  filled : name ≠ ""
  single : '/' ∉ name.toList

/-- What stands before a part that is seen from a path. -/
def approach (base : String) : String :=
  if base.isEmpty || base.toList.getLast? == some '/' then base else base ++ "/"

theorem join_eq_append {part : String} (relative : isAbsolute part = false) (base : String) :
    join base part = approach base ++ part := by
  unfold join approach
  rw [if_neg (by simp [relative])]
  split <;> rfl

namespace Part

variable {name : String} (part : Part name)

include part

theorem relative : isAbsolute name = false :=
  isAbsolute_of_not_mem part.single

/-- A part is closed by a slash if another one follows it. -/
theorem approach_join (base : String) : approach (join base name) = join base name ++ "/" := by
  have filled : name.toList ≠ [] := fun none => part.filled (String.toList_eq_nil_iff.mp none)
  have last := List.getLast?_eq_some_getLast filled
  have other : name.toList.getLast filled ≠ '/' := by
    intro slash
    rw [slash] at last
    exact part.single (List.mem_of_getLast? last)
  rw [join_eq_append part.relative, approach, if_neg]
  simp [List.getLast?_append, last, other, part.filled]

end Part

end Path

namespace Evidence

theorem toDigits_inj {n m : Nat} : Nat.toDigits 10 n = Nat.toDigits 10 m ↔ n = m := by
  refine ⟨?_, congrArg _⟩
  intro same
  have read := congrArg (Nat.ofDigitChars 10 · 0) same
  simpa only [Nat.ofDigitChars_toDigits (b := 10) (by decide) (by decide)] using read

theorem fileName_inj {index place : Nat} {message saying : String} :
    fileName index message = fileName place saying ↔
      index = place ∧ sanitize message = sanitize saying := by
  have hyphen : ∀ n, '-' ∉ Nat.toDigits 10 n := not_mem_toDigits rfl
  rw [← String.toList_inj, toList_fileName, toList_fileName,
    append_cons_eq_iff (hyphen index) (hyphen place), List.append_left_inj, String.toList_inj,
    toDigits_inj]

theorem fileName_sanitize (index : Nat) (message : String) :
    fileName index (sanitize message) = fileName index message := by
  rw [fileName, sanitize_sanitize, fileName]

/-- The path of a picture tells its scenario and the name of its file. -/
theorem pathFor_inj (captureDir : String) {scenario other : String} (part : Path.Part scenario)
    (part' : Path.Part other) {index place : Nat} {message saying : String} :
    pathFor captureDir scenario index message = pathFor captureDir other place saying ↔
      scenario = other ∧ fileName index message = fileName place saying := by
  have plain := fileName_plain index message
  have plain' := fileName_plain place saying
  rw [pathFor, pathFor, Path.join_eq_append plain.relative, Path.join_eq_append plain'.relative,
    part.approach_join, part'.approach_join, Path.join_eq_append part.relative,
    Path.join_eq_append part'.relative, String.append_assoc, String.append_assoc,
    String.append_assoc, String.append_assoc, String.append_right_inj, ← String.toList_inj]
  simp only [String.toList_append]
  exact (append_cons_eq_iff part.single part'.single).trans (by simp [String.toList_inj])

theorem fileName?_pathFor (captureDir scenario : String) (index : Nat) (message : String) :
    Path.fileName? (pathFor captureDir scenario index message) = some (fileName index message) := by
  have plain := fileName_plain index message
  have stays : fileName index message ≠ "." := by
    intro dot
    have stays := plain.stays
    rw [dot] at stays
    cases stays
  rw [Path.fileName?, pathFor, plain.components_join, List.getLast?_concat]
  simp [stays, plain.descends]

end Evidence

theorem Scenario.scheduled_pairwise (scenario : Scenario) :
    scenario.scheduled.Pairwise fun item other =>
      item.context.index < other.context.index := by
  rw [List.pairwise_iff_getElem]
  intro i j _ _ before
  simpa [scheduled] using before

theorem Scheduled.fileName?_evidence {config : Config} {item : Scheduled} {path : String}
    (kept : (item.planRow config).evidence = some path) :
    Path.fileName? path = some (Evidence.fileName item.context.index item.step.message) := by
  unfold planRow at kept
  split at kept
  next => cases kept
  next =>
    cases kept
    exact Evidence.fileName?_pathFor _ _ _ _

/-- The steps of a scenario leave their pictures in different files, whatever they are called. -/
theorem Scenario.evidence_pairwise (config : Config) (scenario : Scenario) :
    (scenario.scheduled.filterMap fun item => (item.planRow config).evidence).Pairwise
      fun path other => Path.fileName? path ≠ Path.fileName? other := by
  refine scenario.scheduled_pairwise.filterMap _ ?_
  intro item item' before path kept path' kept' same
  rw [Scheduled.fileName?_evidence kept, Scheduled.fileName?_evidence kept', Option.some_inj,
    Evidence.fileName_inj] at same
  omega

namespace Evidence

/-- The path of a picture tells the scenario of its step, if that has a name without slashes, the
place of the step, and what is left of its message.  No two steps of a scenario share a file.  The
file bears the place and what is left of the message, which is free of quotes, brackets and
slashes, so that to strip the message beforehand makes no difference. -/
theorem pathFor_identifies (config : Config) :
    (∀ scenario index message other place saying, Path.Part scenario → Path.Part other →
      (pathFor config.captureDir scenario index message =
          pathFor config.captureDir other place saying ↔
        scenario = other ∧ index = place ∧ sanitize message = sanitize saying)) ∧
    (∀ scenario : Scenario,
      (scenario.scheduled.filterMap fun item => (item.planRow config).evidence).Pairwise
        fun path other => Path.fileName? path ≠ Path.fileName? other) ∧
    ∀ scenario index message,
      Path.fileName? (pathFor config.captureDir scenario index message) =
          some (toString index ++ "-" ++ sanitize message ++ ".png") ∧
        (∀ c ∈ ['\x27', '[', ']', '\x22', '/'],
          c ∉ (toString index ++ "-" ++ sanitize message ++ ".png").toList) ∧
        pathFor config.captureDir scenario index (sanitize message) =
          pathFor config.captureDir scenario index message := by
  refine ⟨?_, Scenario.evidence_pairwise config, ?_⟩
  · intro scenario index message other place saying part part'
    rw [pathFor_inj config.captureDir part part', fileName_inj]
  · intro scenario index message
    refine ⟨fileName?_pathFor config.captureDir scenario index message, ?_, ?_⟩
    · have stripped : ['\x27', '[', ']', '\x22', '/'].all isStripped = true := by decide
      intro c listed membership
      have kept : isStripped c = false := isStripped_of_mem_fileName membership
      cases kept.symm.trans (List.all_eq_true.mp stripped c listed)
    · rw [pathFor, fileName_sanitize, pathFor]

/-- Where a message begins like the number of another step the paths are told apart all the same. -/
theorem first_and_eleventh_identified :
    Path.Part "Login" ∧
      pathFor "./capture" "Login" 1 "1-'go'" = "./capture/Login/1-1-go.png" ∧
      pathFor "./capture" "Login" 11 "go" = "./capture/Login/11-go.png" ∧
      pathFor "./capture" "Login" 1 "1-'go'" ≠ pathFor "./capture" "Login" 11 "go" := by
  have part : Path.Part "Login" := ⟨by decide, by decide⟩
  refine ⟨part, by decide +kernel, by decide +kernel, ?_⟩
  intro same
  have told := (pathFor_identifies .default).1 "Login" 1 "1-'go'" "Login" 11 "go" part part
  exact absurd (told.mp same).2.1 (by decide)

end Evidence

end Rehearsal

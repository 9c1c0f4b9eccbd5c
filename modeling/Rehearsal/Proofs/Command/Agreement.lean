import Rehearsal.Command
import Rehearsal.Proofs.Document.Prediction

/-!
The two commands side by side.

They read the same files and look through the document in the same way, so that one of them fails if
and only if the other does.  What there is to say about a document is said by both in the same
words.
-/

namespace Rehearsal

namespace Document

theorem any_isError_eq_false_iff (document : Document) :
    document.diagnostics.any Diagnostic.isError = false ↔
      ∀ diagnostic ∈ document.diagnostics, diagnostic.isError = false := by
  simp only [List.any_eq_false, Bool.not_eq_true]

theorem ofFile_json {path text : String} (isJson : Path.extension? path = some "json") :
    ofFile path (.ok text) = ofJson text := by
  rw [ofFile, if_pos isJson]

/-- All that there is to say about a document, as one value. -/
def remarks (document : Document) : Json :=
  .list (document.diagnostics.map Diagnostic.toJson)

theorem clean_or_faulty (document : Document) :
    (∀ diagnostic ∈ document.diagnostics, diagnostic.isError = false) ∨
      ∃ diagnostic ∈ document.diagnostics, diagnostic.isError = true := by
  rw [← document.any_isError_eq_false_iff, ← List.any_eq_true]
  exact (Bool.eq_false_or_eq_true _).symm

end Document

namespace Command

section

variable {document : Document}
  (faulty : ∃ diagnostic ∈ document.diagnostics, diagnostic.isError = true)

include faulty

theorem runCheck_of_faulty (file : String) (json : Bool) :
    runCheck file json document =
      { output := Diagnostic.output json document.diagnostics
        error := some .validationFailed } := by
  simp only [runCheck, List.any_eq_true.mpr faulty, if_true]

theorem runPlan_of_faulty (config : Config) (json : Bool) :
    runPlan config json document =
      { output := Diagnostic.output json document.diagnostics
        error := some .validationFailed } := by
  simp only [runPlan, List.any_eq_true.mpr faulty, if_true]

end

section

variable {document : Document}
  (clean : ∀ diagnostic ∈ document.diagnostics, diagnostic.isError = false)

include clean

theorem runCheck_of_clean (file : String) (json : Bool) :
    runCheck file json document =
      { output :=
          if !json && document.diagnostics.isEmpty then file ++ ": ok\n"
          else Diagnostic.output json document.diagnostics
        error := none } := by
  simp only [runCheck, document.any_isError_eq_false_iff.mpr clean, Bool.false_eq_true, if_false]
  split <;> rfl

/-- What is planned for a document is said behind its diagnostics, or before them. -/
theorem runPlan_of_clean (config : Config) (json : Bool) :
    ∃ plan, document.plan config = .ok plan ∧
      runPlan config json document =
        { output :=
            if json then
              (Json.object [("plan", plan.toJson), ("diagnostics", document.remarks)]).pretty ++
                "\n"
            else Diagnostic.listing document.diagnostics ++ plan.text ++ "\n"
          error := none } := by
  obtain ⟨suite, installed⟩ := Document.exists_install_of_clean clean .empty
  have planned := Document.plan_of_install config installed
  refine ⟨_, planned, ?_⟩
  simp only [runPlan, document.any_isError_eq_false_iff.mpr clean, Bool.false_eq_true, if_false,
    planned]
  split <;> rfl

end

end Command

namespace Request

/-- What comes of the request if it is for a command, and for its output in one form. -/
def asked (request : Request) (command : Command) (json : Bool) : CommandResult :=
  { request with command, json }.run

variable {request : Request}

theorem asked_of_unsettled {error : Error} (unsettled : request.settings = .error error)
    (command : Command) (json : Bool) :
    request.asked command json = { output := "", error := some (.failed error) } := by
  have same : { request with command, json }.settings = .error error := unsettled
  simp only [asked, run, same]

section

variable {config : Config} (settled : request.settings = .ok config)

include settled

theorem asked_of_unread {error : Error}
    (unread : Document.ofFile request.file request.content = .error error) (command : Command)
    (json : Bool) :
    request.asked command json = { output := "", error := some (.failed error) } := by
  have same : { request with command, json }.settings = .ok config := settled
  simp only [asked, run, same, unread]

variable {document : Document}
  (read : Document.ofFile request.file request.content = .ok document)

include read

theorem asked_plan (json : Bool) :
    request.asked .plan json = Command.runPlan config json document := by
  have same : { request with command := .plan, json }.settings = .ok config := settled
  simp only [asked, run, same, read]

theorem asked_check (json : Bool) :
    request.asked .check json = Command.runCheck request.file json document := by
  have same : { request with command := .check, json }.settings = .ok config := settled
  simp only [asked, run, same, read]

end

/-- Whatever comes of a request, it is the same error for either command, if there is one. -/
theorem error_asked (request : Request) (json json' : Bool) :
    (request.asked .plan json).error = (request.asked .check json').error := by
  cases settled : request.settings with
  | error error => rw [asked_of_unsettled settled, asked_of_unsettled settled]
  | ok config =>
      cases read : Document.ofFile request.file request.content with
      | error error => rw [asked_of_unread settled read, asked_of_unread settled read]
      | ok document =>
          rw [asked_plan settled read, asked_check settled read]
          rcases document.clean_or_faulty with clean | faulty
          · obtain ⟨plan, -, planned⟩ := Command.runPlan_of_clean clean config json
            rw [planned, Command.runCheck_of_clean clean]
          · rw [Command.runPlan_of_faulty faulty, Command.runCheck_of_faulty faulty]

/-- A request succeeds if its settings can be read, and its document too, and there is nothing wrong
with the document. -/
theorem error_asked_check_eq_none_iff (request : Request) (json : Bool) :
    (request.asked .check json).error = none ↔
      ∃ config document, request.settings = .ok config ∧
        Document.ofFile request.file request.content = .ok document ∧
        ∀ diagnostic ∈ document.diagnostics, diagnostic.isError = false := by
  constructor
  · intro succeeds
    cases settled : request.settings with
    | error error =>
        rw [asked_of_unsettled settled] at succeeds
        cases succeeds
    | ok config =>
        cases read : Document.ofFile request.file request.content with
        | error error =>
            rw [asked_of_unread settled read] at succeeds
            cases succeeds
        | ok document =>
            refine ⟨config, document, rfl, rfl, document.clean_or_faulty.resolve_right ?_⟩
            intro faulty
            rw [asked_check settled read, Command.runCheck_of_faulty faulty] at succeeds
            cases succeeds
  · rintro ⟨config, document, settled, read, clean⟩
    rw [asked_check settled read, Command.runCheck_of_clean clean]

/-- As text, `plan` prints what `check` prints, and a plan behind it unless there is an error. -/
theorem output_asked_text {document : Document}
    (read : Document.ofFile request.file request.content = .ok document)
    (diagnosed : document.diagnostics ≠ []) :
    ∃ rest,
      (request.asked .plan false).output = (request.asked .check false).output ++ rest ∧
      ((∃ diagnostic ∈ document.diagnostics, diagnostic.isError = true) → rest = "") := by
  cases settled : request.settings with
  | error error =>
      rw [asked_of_unsettled settled, asked_of_unsettled settled]
      exact ⟨"", rfl, fun _ => rfl⟩
  | ok config =>
      rw [asked_plan settled read, asked_check settled read]
      rcases document.clean_or_faulty with clean | faulty
      · obtain ⟨plan, -, planned⟩ := Command.runPlan_of_clean clean config false
        refine ⟨plan.text ++ "\n", ?_, ?_⟩
        · rw [planned, Command.runCheck_of_clean clean, List.isEmpty_eq_false_iff.mpr diagnosed]
          exact String.append_assoc
        · rintro ⟨diagnostic, membership, wrong⟩
          cases (clean diagnostic membership).symm.trans wrong
      · rw [Command.runPlan_of_faulty faulty, Command.runCheck_of_faulty faulty]
        exact ⟨"", (String.append_empty).symm, fun _ => rfl⟩

/-- The commands agree on every request.  One fails with the error with which the other does, and
neither if the files can be read and the document is sound.  As text, the output of `check` on a
document about which there is something to say is the beginning of that of `plan`, and all of it if
there is an error; as JSON, both show the same list of diagnostics, which stands next to the plan if
there is one. -/
theorem commands_agree (request : Request) :
    (∀ json json',
      (request.asked .plan json).error = (request.asked .check json').error) ∧
    (∀ command json, (request.asked command json).error = none ↔
      ∃ config document, request.settings = .ok config ∧
        Document.ofFile request.file request.content = .ok document ∧
        ∀ diagnostic ∈ document.diagnostics, diagnostic.isError = false) ∧
    (∀ document, Document.ofFile request.file request.content = .ok document →
      document.diagnostics ≠ [] →
        ∃ rest,
          (request.asked .plan false).output = (request.asked .check false).output ++ rest ∧
          ((∃ diagnostic ∈ document.diagnostics, diagnostic.isError = true) → rest = "")) ∧
    ∀ config document, request.settings = .ok config →
      Document.ofFile request.file request.content = .ok document →
        (request.asked .check true).output = document.remarks.pretty ++ "\n" ∧
        ((∃ diagnostic ∈ document.diagnostics, diagnostic.isError = true) →
          (request.asked .plan true).output = document.remarks.pretty ++ "\n") ∧
        ((∀ diagnostic ∈ document.diagnostics, diagnostic.isError = false) →
          ∃ plan, document.plan config = .ok plan ∧
            (request.asked .plan true).output =
              (Json.object [("plan", plan.toJson), ("diagnostics", document.remarks)]).pretty ++
                "\n") := by
  refine ⟨request.error_asked, ?_, fun document => output_asked_text, ?_⟩
  · intro command json
    cases command with
    | plan =>
        rw [request.error_asked json json]
        exact request.error_asked_check_eq_none_iff json
    | check => exact request.error_asked_check_eq_none_iff json
  · intro config document settled read
    refine ⟨?_, ?_, ?_⟩
    · rw [asked_check settled read]
      rcases document.clean_or_faulty with clean | faulty
      · rw [Command.runCheck_of_clean clean]
        rfl
      · rw [Command.runCheck_of_faulty faulty]
        rfl
    · intro faulty
      rw [asked_plan settled read, Command.runPlan_of_faulty faulty]
      rfl
    · intro clean
      obtain ⟨plan, planned, printed⟩ := Command.runPlan_of_clean clean config true
      refine ⟨plan, planned, ?_⟩
      rw [asked_plan settled read, printed]
      rfl

def sketchText : String :=
  "\x7b\"entry_url\":\"/\",\"scenarios\":[\x7b\"name\":\"Shopping\"\x7d]\x7d"

/-- A question about a scenario that has a name and nothing else. -/
def sketch : Request :=
  { command := .plan
    file := "sketch.json"
    content := .ok sketchText
    config := none
    json := false }

def sketchNode : Source.Node :=
  let word (text : String) : Source.Node := .ofAtom (.text text)
  .map [
    (word "entry_url", word "/"),
    (word "scenarios", .list [.map [(word "name", word "Shopping")]])]

def sketched : Document :=
  { entryUrl := "/", scenarios := [{ name := "Shopping", dependsOn := [], steps := [] }] }

theorem read_sketchText : Json.Reader.read sketchText = (sketchNode, true) := by cbv

theorem ofFile_sketch : Document.ofFile sketch.file sketch.content = .ok sketched := by
  change Document.ofFile "sketch.json" (.ok sketchText) = _
  rw [Document.ofFile_json (by decide +kernel), Document.ofJson, Json.decode, read_sketchText]
  rfl

/-- There is a warning for it, which both commands give, and a plan, which only one gives. -/
theorem sketch_agreed :
    sketched.diagnostics.map Diagnostic.level = [.warning] ∧
      (∀ json, (sketch.asked .plan json).error = none) ∧
      (∃ rest,
        (sketch.asked .plan false).output = (sketch.asked .check false).output ++ rest) ∧
      (sketch.asked .check true).output = sketched.remarks.pretty ++ "\n" ∧
      ∃ plan, sketched.plan .default = .ok plan ∧
        (sketch.asked .plan true).output =
          (Json.object [("plan", plan.toJson), ("diagnostics", sketched.remarks)]).pretty ++
            "\n" := by
  have clean : ∀ diagnostic ∈ sketched.diagnostics, diagnostic.isError = false := by decide +kernel
  obtain ⟨-, succeeds, text, json⟩ := commands_agree sketch
  obtain ⟨rest, printed, -⟩ := text sketched ofFile_sketch (by decide +kernel)
  obtain ⟨checked, -, planned⟩ := json .default sketched rfl ofFile_sketch
  exact ⟨by decide +kernel,
    fun json => (succeeds .plan json).mpr ⟨.default, sketched, rfl, ofFile_sketch, clean⟩,
    ⟨rest, printed⟩, checked, planned clean⟩

end Request

end Rehearsal

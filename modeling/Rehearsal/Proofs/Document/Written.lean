import Rehearsal.Document.Reader
import Rehearsal.Proofs.Source.Settled

/-!
Where the steps of a document are written.

A document that has been read shows, for each of its steps, the node that the step was read from,
and what is said there about the submission of a form.
-/

namespace Rehearsal

open Source

/-- The node of a scenario in the tree of a document. -/
def Document.scenarioNode? (i : Nat) (node : Node) : Option Node :=
  (node.field? ["entry_url", "scenarios"] "scenarios").bind (Node.item? i)

/-- The node of a step in the tree of a document. -/
def Document.stepNode? (i j : Nat) (node : Node) : Option Node :=
  ((Document.scenarioNode? i node).bind
    (Node.field? ["name", "depends_on", "steps"] "steps")).bind (Node.item? j)

/-- What is written in a step about the submission of its form, and whether the form is submitted
then. -/
inductive Submission (step : Node) : Bool → Prop where
  | absent : step.under? "auto_submit" = none → Submission step true
  /-- A value of null is taken for none. -/
  | null {value : Node} :
      step.under? "auto_submit" = some value → value.found = .ok .null → Submission step true
  | written {value : Node} {flag : Json} :
      step.under? "auto_submit" = some value → value.found ≠ .ok .null →
      Json.ofNode value = .ok flag → Submission step (Action.submits (some flag))

namespace Document

theorem item_of_defaulted {α : Type} {policy : ListedRecords} {title name : String}
    {known : List String} {node : Node} {record : Record} {read : Node → Except Fault α}
    {values : List α} (taken : Record.ofNode policy title known node = .ok record)
    (reading : record.defaulted name [] (Node.listOf read) = .ok values) {index : Nat} {value : α}
    (found : values[index]? = some value) :
    ∃ item, (node.field? known name).bind (Node.item? index) = some item ∧
      read item = .ok value := by
  rcases Record.defaulted_eq_ok reading with ⟨-, rfl⟩ | ⟨list, written, listed⟩
  · cases found
  · obtain ⟨item, inside, made⟩ := Node.item?_of_listOf listed found
    rw [Record.written?_of_ofNode taken] at written
    exact ⟨item, by rw [written]; exact inside, made⟩

theorem scenario_written {node : Node} {document : Document}
    (read : ofNode .json node = .ok document) {i : Nat} {scenario : ScenarioSpec}
    (there : document.scenarios[i]? = some scenario) :
    ∃ written, scenarioNode? i node = some written ∧
      ScenarioSpec.ofNode .json 124 written = .ok scenario := by
  obtain ⟨record, taken, settled⟩ := exists_of_bind read
  obtain ⟨url, scenarios, -, listed, rfl⟩ :=
    Placed.of_apply₂_eq_ok (Placed.settle_given_eq_ok settled)
  exact item_of_defaulted taken listed there

theorem step_written {written : Node} {scenario : ScenarioSpec}
    (read : ScenarioSpec.ofNode .json 124 written = .ok scenario) {j : Nat} {step : StepSpec}
    (here : scenario.steps[j]? = some step) :
    ∃ node, (written.field? ["name", "depends_on", "steps"] "steps").bind (Node.item? j) =
        some node ∧
      StepSpec.ofNode .json 122 node = .ok step := by
  obtain ⟨record, taken, settled⟩ := exists_of_bind read
  obtain ⟨name, dependsOn, steps, -, -, listed, rfl⟩ :=
    Placed.of_apply₃_eq_ok (Placed.settle_given_eq_ok settled)
  exact item_of_defaulted taken listed here

end Document

namespace ActionSpec

/-- Only what is written as a filled form is read as one. -/
theorem fillOfNode_of_ofKind {kind : String} {node : Node} {message selector : String}
    {fields : FormData} {autoSubmit : Option Json}
    (read : ofKind kind node = .ok (.fill message selector fields autoSubmit)) :
    fillOfNode node = .ok (.fill message selector fields autoSubmit) := by
  unfold ofKind at read
  split at read
  case h_1 | h_4 | h_6 | h_7 | h_8 | h_9 | h_10 | h_11 | h_12 =>
    -- The actions of two texts.
    obtain ⟨record, -, settled⟩ := exists_of_bind read
    obtain ⟨_, _, -, -, made⟩ := Placed.of_apply₂_eq_ok (Placed.settle_given_eq_ok settled)
    cases made
  case h_3 => exact read
  case h_5 =>
    obtain ⟨record, -, settled⟩ := exists_of_bind read
    obtain ⟨_, -, made⟩ := Placed.of_apply_eq_ok (Placed.settle_given_eq_ok settled)
    cases made
  case h_2 | h_13 | h_14 =>
    obtain ⟨record, -, settled⟩ := exists_of_bind read
    obtain ⟨_, _, _, -, -, -, made⟩ := Placed.of_apply₃_eq_ok (Placed.settle_given_eq_ok settled)
    cases made
  case h_15 => cases read

theorem flag_of_fillOfNode {node : Node} {message selector : String} {fields : FormData}
    {autoSubmit : Option Json}
    (read : fillOfNode node = .ok (.fill message selector fields autoSubmit)) :
    node.field? ["message", "selector", "fields", "auto_submit"] "auto_submit" = none ∧
        autoSubmit = none ∨
      ∃ item, node.field? ["message", "selector", "fields", "auto_submit"] "auto_submit" =
          some item ∧ Node.optional Node.json item = .ok autoSubmit := by
  obtain ⟨record, taken, settled⟩ := exists_of_bind read
  obtain ⟨make, flag, front, reading, made⟩ :=
    Placed.apply_eq_ok (Placed.settle_given_eq_ok settled)
  obtain ⟨_, _, _, -, -, -, rfl⟩ := Placed.of_apply₃_eq_ok front
  cases made
  rw [← Record.written?_of_ofNode taken]
  exact Record.defaulted_eq_ok reading

theorem ofNode_keeps {levels : Nat} {entries : List (Node × Node)} {action : ActionSpec}
    (read : ofNode levels (.map entries) = .ok action) :
    ∃ kind kept, Node.Kept levels "action" entries kept ∧ ofKind kind (.map kept) = .ok action := by
  obtain ⟨⟨kind, rest⟩, tagged, made⟩ := exists_of_bind read
  obtain ⟨⟨found, others⟩, split, behind⟩ := exists_of_bind tagged
  obtain ⟨kept, same, keeps⟩ := Node.sift_keeps split
  cases found with
  | none => cases behind
  | some kind =>
      cases behind
      rw [same] at made
      exact ⟨kind, kept, keeps, made⟩

end ActionSpec

namespace StepSpec

theorem ofNode_keeps {manner : Manner} {levels : Nat} {node : Node} {spec : StepSpec}
    (read : ofNode manner levels node = .ok spec) :
    ∃ entries kept, node.entries "struct StepSpec" = .ok entries ∧
      Node.Kept levels "voice" entries kept ∧
      ActionSpec.ofNode levels (.map kept) = .ok spec.action := by
  obtain ⟨entries, found, behind⟩ := exists_of_bind read
  obtain ⟨⟨voice, rest⟩, done, goesOn⟩ := exists_of_bind behind
  obtain ⟨kept, same, keeps⟩ := Node.sift_keeps done
  cases voice with
  | none => cases goesOn
  | some voice =>
      obtain ⟨action, made, settled⟩ := exists_of_bind goesOn
      cases settled
      rw [same] at made
      exact ⟨entries, kept, found, keeps, made⟩

/-- Whether the form of a step is submitted is written in the step. -/
theorem submission_of_ofNode {levels : Nat} (deep : levels ≤ Manner.json.levels) {node : Node}
    {voice : Voice} {message selector : String} {fields : FormData} {autoSubmit : Option Json}
    (read : ofNode .json levels node =
      .ok { voice, action := .fill message selector fields autoSubmit }) :
    Submission node (Action.submits autoSubmit) := by
  obtain ⟨entries, kept, found, keeps, read⟩ := ofNode_keeps read
  obtain ⟨kind, rest, keepsMore, made⟩ := ActionSpec.ofNode_keeps read
  have flag := ActionSpec.flag_of_fillOfNode (ActionSpec.fillOfNode_of_ofKind made)
  rw [Node.field?_map] at flag
  -- The voice and the tag of the action are taken out of the entries, and the flag is left.
  have entry := Node.under?_of_entries found "auto_submit"
  have beside : "auto_submit" ≠ "voice" := by decide
  have besideToo : "auto_submit" ≠ "action" := by decide
  rcases keeps.under?_trans keepsMore beside besideToo with
    ⟨unwritten, missing⟩ | ⟨value, settled, written, done, held⟩
  · rcases flag with ⟨-, rfl⟩ | ⟨item, found, -⟩
    · exact .absent (entry.trans unwritten)
    · cases missing.symm.trans found
  · rcases flag with ⟨missing, -⟩ | ⟨item, found, read⟩
    · cases held.symm.trans missing
    · cases held.symm.trans found
      rcases Node.optional_of_settled done read with
        ⟨null, rfl⟩ | ⟨other, flag, taken, rfl⟩
      · exact .null (entry.trans written) null
      · refine .written (entry.trans written) other ?_
        rw [Json.ofNode, Node.settle_of_le deep done]
        exact taken

end StepSpec

end Rehearsal

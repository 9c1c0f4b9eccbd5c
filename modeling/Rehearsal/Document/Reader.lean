import Rehearsal.Document.Basic
import Rehearsal.Json.Reader
import Rehearsal.Source.Scope
import Rehearsal.Source.Tagged

/-!
Documents taken out of a text.

A step is a map with its voice, the name of its action, and the fields of that action beside each
other.  The fields are read when the name is known, so they are settled first.
-/

namespace Rehearsal

open Source

/-- A form: each field is a text, or any other value as its compact text. -/
def FormData.ofNode (levels : Nat) (node : Node) : Except Fault FormData := do
  match node.bare with
  | .map entries =>
      let members ← entries.mapM fun entry => do
        let name ← entry.1.text "a string"
        let value ← (← entry.2.settle levels).json
        return (name, value)
      return .ofMembers (Association.ofList members)
  | other => other.mismatch "a map"

/-- A form from a JSON text. -/
def FormData.parse (text : String) : Except Fault FormData :=
  Json.decode (FormData.ofNode (Manner.json.levels - 1)) text

def Voice.ofNode (manner : Manner) (node : Node) : Except Fault Voice :=
  node.oneOf manner (all.map name) ofName?

namespace ActionSpec

def title : String := "internally tagged enum ActionSpec"

/-- A field that is a text. -/
def textField (record : Record) (name : String) : Placed String :=
  record.required name (Node.text "a string")

/-- Reads an action of two texts, the first of which is its message. -/
def pairOfNode (variant second : String) (make : String → String → ActionSpec) (node : Node) :
    Except Fault ActionSpec := do
  let record ← Record.ofNode .counted ("struct variant ActionSpec::" ++ variant)
    ["message", second] node
  let reading := Placed.of make
    |>.apply (textField record "message")
    |>.apply (textField record second)
  (reading.given record.flawless).settle

def reachedOfNode (node : Node) : Except Fault ActionSpec := do
  let record ← Record.ofNode .counted "struct variant ActionSpec::Reached"
    ["message", "url", "url_regex"] node
  let reading := Placed.of ActionSpec.reached
    |>.apply (textField record "message")
    |>.apply (record.defaulted "url" none (Node.optional (Node.text "a string")))
    |>.apply (record.defaulted "url_regex" none (Node.optional (Node.text "a string")))
  (reading.given record.flawless).settle

def fillOfNode (node : Node) : Except Fault ActionSpec := do
  let record ← Record.ofNode .counted "struct variant ActionSpec::Fill"
    ["message", "selector", "fields", "auto_submit"] node
  let reading := Placed.of ActionSpec.fill
    |>.apply (textField record "message")
    |>.apply (textField record "selector")
    |>.apply (record.defaulted "fields" .empty (FormData.ofNode Manner.settled.levels))
    |>.apply (record.defaulted "auto_submit" none (Node.optional Node.json))
  (reading.given record.flawless).settle

def labelOfNode (node : Node) : Except Fault ActionSpec := do
  let record ← Record.ofNode .counted "struct variant ActionSpec::ClickTheLabel" ["label"] node
  let reading := Placed.of ActionSpec.clickTheLabel
    |>.apply (textField record "label")
  (reading.given record.flawless).settle

def valueOfNode (node : Node) : Except Fault ActionSpec := do
  let record ← Record.ofNode .counted "struct variant ActionSpec::SeeTheValueOf"
    ["message", "selector", "is"] node
  let reading := Placed.of ActionSpec.seeTheValueOf
    |>.apply (textField record "message")
    |>.apply (textField record "selector")
    |>.apply (record.required "is" Node.json)
  (reading.given record.flawless).settle

def noteOfNode (node : Node) : Except Fault ActionSpec := do
  let record ← Record.ofNode .counted "struct variant ActionSpec::NoteDown"
    ["message", "selector", "attribute"] node
  let reading := Placed.of ActionSpec.noteDown
    |>.apply (textField record "message")
    |>.apply (textField record "selector")
    |>.apply (textField record "attribute")
  (reading.given record.flawless).settle

/-- Reads the fields of an action of a known name. -/
def ofKind (kind : String) (node : Node) : Except Fault ActionSpec :=
  match kind with
  | "am" => pairOfNode "Am" "selector" .am node
  | "reached" => reachedOfNode node
  | "fill" => fillOfNode node
  | "click" => pairOfNode "Click" "selector" .click node
  | "click_the_label" => labelOfNode node
  | "find" => pairOfNode "Find" "selector" .find node
  | "find_the_visible" => pairOfNode "FindTheVisible" "selector" .findTheVisible node
  | "go_to" => pairOfNode "GoTo" "url" .goTo node
  | "see" => pairOfNode "See" "text" .see node
  | "can_see" => pairOfNode "CanSee" "text" .canSee node
  | "should_not_see" => pairOfNode "ShouldNotSee" "text" .shouldNotSee node
  | "cannot_find_the" => pairOfNode "CannotFindThe" "selector" .cannotFindThe node
  | "see_the_value_of" => valueOfNode node
  | "note_down" => noteOfNode node
  | other => .error (.unknownVariant other names)

/-- Reads an action from what stands beside the voice of a step. -/
def ofNode (levels : Nat) (node : Node) : Except Fault ActionSpec := do
  let (kind, rest) ← node.tagAndRest levels title "action" names true
  ofKind kind rest

end ActionSpec

namespace StepSpec

/-- Reads a step; `levels` tells how deep its parts may be nested. -/
def ofNode (manner : Manner) (levels : Nat) (node : Node) : Except Fault StepSpec := do
  let entries ← node.entries "struct StepSpec"
  match ← Node.sift levels "voice" "field identifier" (Voice.ofNode manner) none [] entries with
  | (none, _) => .error (.missingField "voice")
  | (some voice, rest) => return { voice, action := ← ActionSpec.ofNode levels (.map rest) }

end StepSpec

def ScenarioSpec.ofNode (manner : Manner) (levels : Nat) (node : Node) :
    Except Fault ScenarioSpec := do
  let record ← Record.ofNode manner.listedRecords "struct ScenarioSpec"
    ["name", "depends_on", "steps"] node
  let reading := Placed.of ScenarioSpec.mk
    |>.apply (record.required "name" (Node.text "a string"))
    |>.apply (record.defaulted "depends_on" [] (Node.listOf (Node.text "a string")))
    |>.apply (record.defaulted "steps" [] (Node.listOf (StepSpec.ofNode manner (levels - 2))))
  (reading.given record.flawless).settle

/-- How far a reader of documents looks: steps are settled as a whole. -/
def Document.scope : Scope :=
  .record [
    ("entry_url", .whole),
    ("scenarios", .list (.record [("name", .whole), ("depends_on", .whole), ("steps", .whole)]))]

/-- Takes a document out of a tree. -/
def Document.ofNode (manner : Manner) (node : Node) : Except Fault Document := do
  let record ← Record.ofNode manner.listedRecords "struct ScenarioDocument"
    ["entry_url", "scenarios"] node
  let reading := Placed.of Document.mk
    |>.apply (record.required "entry_url" (Node.text "a string"))
    |>.apply (record.defaulted "scenarios" []
      (Node.listOf (ScenarioSpec.ofNode manner (manner.levels - 3))))
  (reading.given record.flawless).settle

/-- Reads a document written as JSON. -/
def Document.ofJson (text : String) : Except Error Document :=
  (Json.decode (Document.ofNode .json) text).mapError fun fault =>
    .document (.malformed .json fault)

end Rehearsal

import Rehearsal.Document.Plan
import Rehearsal.Document.Validation
import Rehearsal.Json.Reader

/-!
Plans and diagnostics as JSON.
-/

namespace Rehearsal

open Source

namespace PlanRow

def toJson (row : PlanRow) : Json :=
  .object [
    ("scenario", .text row.scenario),
    ("index", .ofNat row.index),
    ("executor", .text row.kind),
    ("message", .text row.message),
    ("evidence", .ofText? row.evidence)]

def ofNode (node : Node) : Except Fault PlanRow := do
  let record ← Record.ofNode .exact "struct PlanRow"
    ["scenario", "index", "executor", "message", "evidence"] node
  let reading := Placed.of PlanRow.mk
    |>.apply (record.required "scenario" (Node.text "a string"))
    |>.apply (record.required "index" (Node.natural "usize"))
    |>.apply (record.required "executor" (Node.text "a string"))
    |>.apply (record.required "message" (Node.text "a string"))
    |>.apply (record.optional "evidence" (Node.text "path string"))
  (reading.given record.flawless).settle

end PlanRow

namespace Plan

def toJson (plan : Plan) : Json :=
  .object [
    ("entry_url", .text plan.entryUrl),
    ("timeout_ms", .ofNat plan.timeoutMs),
    ("rows", .list (plan.rows.map PlanRow.toJson))]

/-- Reads a plan from a JSON text. -/
def ofNode (node : Node) : Except Fault Plan := do
  let record ← Record.ofNode .exact "struct Plan" ["entry_url", "timeout_ms", "rows"] node
  let reading := Placed.of Plan.mk
    |>.apply (record.required "entry_url" (Node.text "a string"))
    |>.apply (record.required "timeout_ms" (Node.natural "u64"))
    |>.apply (record.required "rows" (Node.listOf PlanRow.ofNode))
  (reading.given record.flawless).settle

end Plan

namespace Severity

def name : Severity → String
  | .error => "error"
  | .warning => "warning"

def all : List Severity := [.error, .warning]

def ofName? (name : String) : Option Severity :=
  all.find? fun severity => severity.name == name

def ofNode (node : Node) : Except Fault Severity :=
  node.oneOf .json (all.map name) ofName?

end Severity

namespace Diagnostic

def toJson (diagnostic : Diagnostic) : Json :=
  .object [
    ("level", .text diagnostic.level.name),
    ("location", .ofText? diagnostic.location),
    ("message", .text diagnostic.message)]

/-- Reads a diagnostic from a JSON text. -/
def ofNode (node : Node) : Except Fault Diagnostic := do
  let record ← Record.ofNode .exact "struct Diagnostic" ["level", "location", "message"] node
  let reading := Placed.of Diagnostic.mk
    |>.apply (record.required "level" Severity.ofNode)
    |>.apply (record.optional "location" (Node.text "a string"))
    |>.apply (record.required "message" (Node.text "a string"))
  (reading.given record.flawless).settle

end Diagnostic

end Rehearsal

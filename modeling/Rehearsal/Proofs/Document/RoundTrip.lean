import Rehearsal.Document.Codec
import Rehearsal.Proofs.Ledger.RoundTrip

/-!
Plans and diagnostics that are written and read again.

With them, no format in which something is kept loses anything.
-/

namespace Rehearsal

open Source

namespace PlanRow

theorem ofNode_toJson (row : PlanRow) : ofNode (.ofJson row.toJson) = .ok row := by
  obtain ⟨scenario, index, kind, message, evidence⟩ := row
  cases evidence <;> rfl

theorem plain_toJson {node : Node} {row : PlanRow} (narrow : node.Narrow)
    (read : ofNode node = .ok row) : row.toJson.plain = true := by
  obtain ⟨record, taken, settled⟩ := exists_of_bind read
  obtain ⟨make, evidence, before, -, rfl⟩ :=
    Placed.apply_eq_ok (Placed.settle_given_eq_ok settled)
  obtain ⟨scenario, index, kind, message, -, counted, -, -, rfl⟩ := Placed.of_apply₄_eq_ok before
  have small := Json.plain_ofNat (Record.natural_narrow narrow taken counted)
  cases evidence <;> simp [toJson, Json.ofText?, Json.plain, Json.plainMembers, small]

end PlanRow

namespace Plan

theorem ofNode_toJson (plan : Plan) : ofNode (.ofJson plan.toJson) = .ok plan := by
  obtain ⟨entryUrl, timeoutMs, rows⟩ := plan
  have read := Node.listOf_ofJson PlanRow.ofNode_toJson rows
  have taken : ofNode (.ofJson (toJson ⟨entryUrl, timeoutMs, rows⟩)) =
      (((Placed.of (Plan.mk entryUrl timeoutMs)).apply
        ((Node.listOf PlanRow.ofNode
          (.ofJson (.list (rows.map PlanRow.toJson)))).mapError ((2, ·)))).given
            (.ok ())).settle := rfl
  rw [taken, read]
  rfl

theorem plain_toJson {node : Node} {plan : Plan} (narrow : node.Narrow)
    (read : ofNode node = .ok plan) : plan.toJson.plain = true := by
  obtain ⟨record, taken, settled⟩ := exists_of_bind read
  obtain ⟨entryUrl, timeoutMs, rows, -, counted, listed, rfl⟩ :=
    Placed.of_apply₃_eq_ok (Placed.settle_given_eq_ok settled)
  obtain ⟨list, inside, made⟩ := Record.required_narrow narrow taken listed
  have each := Node.Narrow.listOf (fun _ _ => PlanRow.plain_toJson) inside made
  simp [toJson, Json.plain, Json.plainMembers, Json.plainItems_map each,
    Json.plain_ofNat (Record.natural_narrow narrow taken counted)]

end Plan

namespace Diagnostic

theorem ofNode_toJson (diagnostic : Diagnostic) :
    ofNode (.ofJson diagnostic.toJson) = .ok diagnostic := by
  obtain ⟨level, location, message⟩ := diagnostic
  cases level <;> cases location <;> rfl

theorem plain_toJson (diagnostic : Diagnostic) : diagnostic.toJson.plain = true := by
  obtain ⟨level, location, message⟩ := diagnostic
  cases location <;> rfl

end Diagnostic

/-- Reports, events, entries, evidence, plans and diagnostics are faithfully written. -/
theorem records_faithful :
    Json.Faithful Report.toJson Report.ofNode ∧
      Json.Faithful Event.toJson (Event.ofNode .json (Manner.json.levels - 1)) ∧
      Json.Faithful Entry.toJson (Entry.ofNode (Manner.json.levels - 1)) ∧
      Json.Faithful Evidence.toJson (Evidence.ofNode .json) ∧
      Json.Faithful Plan.toJson Plan.ofNode ∧
      Json.Faithful PlanRow.toJson PlanRow.ofNode ∧
      Json.Faithful Diagnostic.toJson Diagnostic.ofNode :=
  ⟨.of_plain Report.ofNode_toJson fun _ _ => Report.plain_toJson,
    .of_plain (Event.ofNode_toJson 124) fun _ _ => Event.plain_members,
    .of_plain (Entry.ofNode_toJson 124) fun _ _ => Entry.plain_toJson,
    .of_plain Evidence.ofNode_toJson fun _ _ => Evidence.plain_toJson,
    .of_plain Plan.ofNode_toJson fun _ _ => Plan.plain_toJson,
    .of_plain PlanRow.ofNode_toJson fun _ _ => PlanRow.plain_toJson,
    .of_plain Diagnostic.ofNode_toJson fun _ diagnostic _ _ => diagnostic.plain_toJson⟩

namespace Report

/-- A report with an event of every kind. -/
def diary : Report :=
  { passed := 1
    failed := 1
    timedOut := 1
    entries := [
      ⟨"10:00", .banner "Pay"⟩,
      ⟨"10:01", .passed "Pay" 1 "When I go to the \x22shop\x22"⟩,
      ⟨"10:02", .captured ⟨"Pay", 1, "When I go to the \x22shop\x22", "proof/Pay/1.png"⟩⟩,
      ⟨"10:03", .failed "Pay" 2 "And I see the price"⟩,
      ⟨"10:04", .log .error "Error: 1 €\nis not 2 €"⟩,
      ⟨"10:05", .timedOut "Pay" 18446744073709551615 ""⟩,
      ⟨"10:06", .done 1 1 1⟩] }

theorem diary_reread :
    diary.toJson.plain = true ∧ Json.decode ofNode diary.toJson.compact = .ok diary :=
  ⟨rfl, records_faithful.1.reread diary rfl⟩

end Report

end Rehearsal

import Rehearsal.Ledger.Codec
import Rehearsal.Proofs.Json.Faithful

/-!
Ledgers that are written and read again.

What has been written of a report, and of each of its parts, is read back as what it was.
-/

namespace Rehearsal

open Source

theorem Evidence.ofNode_toJson (evidence : Evidence) :
    ofNode .json (.ofJson evidence.toJson) = .ok evidence := rfl

theorem Evidence.plain_toJson {manner : Manner} {node : Node} {evidence : Evidence}
    (narrow : node.Narrow) (read : ofNode manner node = .ok evidence) :
    evidence.toJson.plain = true := by
  obtain ⟨record, taken, settled⟩ := exists_of_bind read
  obtain ⟨scenario, index, message, path, -, counted, -, -, rfl⟩ :=
    Placed.of_apply₄_eq_ok (Placed.settle_given_eq_ok settled)
  have small := Json.plain_ofNat (Record.natural_narrow narrow taken counted)
  simp [toJson, Json.plain, Json.plainMembers, small]

namespace Event

/-- Two levels hold an event and the evidence in it. -/
theorem ofNode_toJson (levels : Nat) (event : Event) :
    ofNode .json (levels + 2) (.ofJson event.toJson) = .ok event := by
  cases event with
  | log level text => cases level <;> rfl
  | banner | passed | failed | timedOut | captured | done => rfl

theorem plain_signal {kind scenario message : String} {index : Nat} (small : index < Nat.pow 2 64) :
    Json.plainMembers (members.signal kind scenario index message) = true := by
  simp [members.signal, Json.plain, Json.plainMembers, Json.plain_ofNat small]

theorem signalOfNode_narrow {name : String} {make : String → Nat → String → Event} {node : Node}
    {event : Event} (narrow : node.Narrow) (read : signalOfNode name make node = .ok event) :
    ∃ scenario index message, index < Nat.pow 2 64 ∧ make scenario index message = event := by
  obtain ⟨record, taken, settled⟩ := exists_of_bind read
  obtain ⟨scenario, index, message, -, counted, -, made⟩ :=
    Placed.of_apply₃_eq_ok (Placed.settle_given_eq_ok settled)
  exact ⟨scenario, index, message, Record.natural_narrow narrow taken counted, made⟩

theorem plain_of_ofKind {kind : String} {node : Node} {event : Event} (narrow : node.Narrow)
    (read : ofKind kind node = .ok event) : Json.plainMembers event.members = true := by
  unfold ofKind at read
  split at read
  next =>
    obtain ⟨record, taken, settled⟩ := exists_of_bind read
    obtain ⟨scenario, -, rfl⟩ := Placed.of_apply_eq_ok (Placed.settle_given_eq_ok settled)
    rfl
  next =>
    obtain ⟨scenario, index, message, small, rfl⟩ := signalOfNode_narrow narrow read
    exact plain_signal small
  next =>
    obtain ⟨scenario, index, message, small, rfl⟩ := signalOfNode_narrow narrow read
    exact plain_signal small
  next =>
    obtain ⟨scenario, index, message, small, rfl⟩ := signalOfNode_narrow narrow read
    exact plain_signal small
  next =>
    obtain ⟨record, taken, settled⟩ := exists_of_bind read
    obtain ⟨level, text, -, -, rfl⟩ :=
      Placed.of_apply₂_eq_ok (Placed.settle_given_eq_ok settled)
    rfl
  next =>
    obtain ⟨record, taken, settled⟩ := exists_of_bind read
    obtain ⟨evidence, shown, rfl⟩ := Placed.of_apply_eq_ok (Placed.settle_given_eq_ok settled)
    obtain ⟨item, inside, made⟩ := Record.required_narrow narrow taken shown
    simp [members, Json.plain, Json.plainMembers, Evidence.plain_toJson inside made]
  next =>
    obtain ⟨record, taken, settled⟩ := exists_of_bind read
    obtain ⟨passes, failures, timeouts, passed, failed, timedOut, rfl⟩ :=
      Placed.of_apply₃_eq_ok (Placed.settle_given_eq_ok settled)
    simp [members, Json.plain, Json.plainMembers,
      Json.plain_ofNat (Record.natural_narrow narrow taken passed),
      Json.plain_ofNat (Record.natural_narrow narrow taken failed),
      Json.plain_ofNat (Record.natural_narrow narrow taken timedOut)]
  next => cases read

theorem plain_members {manner : Manner} {levels : Nat} {node : Node} {event : Event}
    (narrow : node.Narrow) (read : ofNode manner levels node = .ok event) :
    Json.plainMembers event.members = true := by
  obtain ⟨⟨kind, rest⟩, split, made⟩ := exists_of_bind read
  exact plain_of_ofKind (narrow.tagAndRest split) made

end Event

namespace Entry

theorem ofNode_toJson (levels : Nat) (entry : Entry) :
    ofNode (levels + 2) (.ofJson entry.toJson) = .ok entry := by
  obtain ⟨time, event⟩ := entry
  cases event with
  | log level text => cases level <;> rfl
  | banner | passed | failed | timedOut | captured | done => rfl

theorem plain_toJson {levels : Nat} {node : Node} {entry : Entry} (narrow : node.Narrow)
    (read : ofNode levels node = .ok entry) : entry.toJson.plain = true := by
  obtain ⟨entries, taken, done⟩ := exists_of_bind read
  obtain ⟨⟨time, rest⟩, parted, done⟩ := exists_of_bind done
  obtain ⟨kept, rfl, keeps⟩ := Node.sift_keeps parted
  cases time with
  | none => cases done
  | some time =>
      obtain ⟨event, made, same⟩ := exists_of_bind done
      cases same
      exact Event.plain_members (.map (keeps.narrow (narrow.entries taken))) made

end Entry

namespace Report

theorem ofNode_toJson (report : Report) : ofNode (.ofJson report.toJson) = .ok report := by
  obtain ⟨passed, failed, timedOut, entries⟩ := report
  have read := Node.listOf_ofJson (Entry.ofNode_toJson 122) entries
  have taken : ofNode (.ofJson (toJson ⟨passed, failed, timedOut, entries⟩)) =
      (((Placed.of (Report.mk passed failed timedOut)).apply
        ((Node.listOf (Entry.ofNode 124)
          (.ofJson (.list (entries.map Entry.toJson)))).mapError ((3, ·)))).given
            (.ok ())).settle := rfl
  rw [taken, read]
  rfl

theorem plain_toJson {node : Node} {report : Report} (narrow : node.Narrow)
    (read : ofNode node = .ok report) : report.toJson.plain = true := by
  obtain ⟨record, taken, settled⟩ := exists_of_bind read
  obtain ⟨passed, failed, timedOut, entries, passes, failures, timeouts, listed, rfl⟩ :=
    Placed.of_apply₄_eq_ok (Placed.settle_given_eq_ok settled)
  obtain ⟨list, inside, made⟩ := Record.required_narrow narrow taken listed
  have each := Node.Narrow.listOf (fun _ _ => Entry.plain_toJson) inside made
  simp [toJson, Json.plain, Json.plainMembers, Json.plainItems_map each,
    Json.plain_ofNat (Record.natural_narrow narrow taken passes),
    Json.plain_ofNat (Record.natural_narrow narrow taken failures),
    Json.plain_ofNat (Record.natural_narrow narrow taken timeouts)]

end Report

end Rehearsal

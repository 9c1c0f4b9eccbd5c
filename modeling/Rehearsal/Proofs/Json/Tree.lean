import Rehearsal.Proofs.Association
import Rehearsal.Proofs.Source.Settled

/-!
JSON values as trees.

The tree of a value is settled already, and the value is read back from it, provided that it is one
that a program can hold: no name stands twice in an object, and no double is infinite.
-/

namespace Rehearsal

open Source

namespace Json

mutual

/-- How many lists and objects stand one within the other. -/
def nesting : Json → Nat
  | .list items => nestingItems items + 1
  | .object members => nestingMembers members + 1
  | .null | .bool _ | .number _ | .text _ => 0

def nestingItems : List Json → Nat
  | [] => 0
  | item :: rest => max (nesting item) (nestingItems rest)

def nestingMembers : List (String × Json) → Nat
  | [] => 0
  | (_, value) :: rest => max (nesting value) (nestingMembers rest)

end

theorem nesting_le_nestingItems {item : Json} {items : List Json} (inside : item ∈ items) :
    item.nesting ≤ nestingItems items := by
  induction inside with
  | head => exact Nat.le_max_left ..
  | tail _ _ inductionHypothesis => exact Nat.le_trans inductionHypothesis (Nat.le_max_right ..)

theorem nesting_le_nestingMembers {member : String × Json} {members : List (String × Json)}
    (inside : member ∈ members) : member.2.nesting ≤ nestingMembers members := by
  induction inside with
  | head => exact Nat.le_max_left ..
  | tail _ _ inductionHypothesis => exact Nat.le_trans inductionHypothesis (Nat.le_max_right ..)

theorem nesting_le_of_object {members : List (String × Json)} {levels : Nat}
    (fits : (object members).nesting ≤ levels + 1) :
    ∀ member ∈ members, member.2.nesting ≤ levels :=
  fun _ inside => Nat.le_trans (nesting_le_nestingMembers inside) (Nat.le_of_succ_le_succ fits)

mutual

/-- The names in an object are distinct, and doubles are finite. -/
def sound : Json → Bool
  | .number (.real value) => value.isFinite
  | .list items => soundItems items
  | .object members => decide (members.map Prod.fst).Nodup && soundMembers members
  | .null | .bool _ | .number (.integer _) | .text _ => true

def soundItems : List Json → Bool
  | [] => true
  | item :: rest => sound item && soundItems rest

def soundMembers : List (String × Json) → Bool
  | [] => true
  | (_, value) :: rest => sound value && soundMembers rest

end

end Json

namespace Source.Node

mutual

theorem settle_ofJson (json : Json) {levels : Nat} (fits : json.nesting ≤ levels) :
    settle levels (ofJson json) = .ok (ofJson json) := by
  cases json with
  | null | bool | number | text => cases levels <;> rfl
  | list items =>
      obtain ⟨levels, rfl⟩ := Nat.exists_eq_add_one_of_ne_zero (Nat.ne_zero_of_lt fits)
      rw [ofJson, settle, settle_ofItems items (Nat.le_of_succ_le_succ fits)]
      rfl
  | object members =>
      obtain ⟨levels, rfl⟩ := Nat.exists_eq_add_one_of_ne_zero (Nat.ne_zero_of_lt fits)
      rw [ofJson, settle, settle_ofMembers members (Nat.le_of_succ_le_succ fits)]
      rfl

theorem settle_ofItems (items : List Json) {levels : Nat}
    (fits : Json.nestingItems items ≤ levels) :
    (ofItems items).mapM (settle levels) = .ok (ofItems items) := by
  cases items with
  | nil => rfl
  | cons item rest =>
      obtain ⟨first, others⟩ := Nat.max_le.mp fits
      rw [ofItems, List.mapM_cons, settle_ofJson item first, settle_ofItems rest others]
      rfl

theorem settle_ofMembers (members : List (String × Json)) {levels : Nat}
    (fits : Json.nestingMembers members ≤ levels) :
    ((ofMembers members).mapM fun entry => do
      let key ← settle levels entry.1
      let value ← settle levels entry.2
      Except.ok (key, value)) = .ok (ofMembers members) := by
  cases members with
  | nil => rfl
  | cons member rest =>
      obtain ⟨name, value⟩ := member
      obtain ⟨first, others⟩ := Nat.max_le.mp fits
      have named : settle levels (ofAtom (.text name)) = .ok (ofAtom (.text name)) := by
        cases levels <;> rfl
      rw [ofMembers, List.mapM_cons, named, settle_ofJson value first,
        settle_ofMembers rest others]
      rfl

end

mutual

theorem json_ofJson (value : Json) (sound : value.sound = true) :
    json (ofJson value) = .ok value := by
  cases value with
  | null | bool | text => rfl
  | number number =>
      cases number with
      | integer => rfl
      | real value =>
          have finite : value.isFinite = true := sound
          show Except.ok (if value.isFinite then Json.number (.real value) else .null) = _
          rw [if_pos finite]
  | list items =>
      rw [ofJson, json, jsonItems_ofItems items sound]
      rfl
  | object members =>
      obtain ⟨distinct, each⟩ := Bool.and_eq_true_iff.mp sound
      cases members with
      | nil => rfl
      | cons member rest =>
          obtain ⟨name, value⟩ := member
          obtain ⟨first, others⟩ := Bool.and_eq_true_iff.mp each
          have kept := Association.ofList_of_nodup (of_decide_eq_true distinct)
          rw [ofJson, ofMembers, json, json_ofJson value first,
            jsonMembers_ofMembers rest others]
          exact congrArg (fun members => Except.ok (Json.object members)) kept

theorem jsonItems_ofItems (items : List Json) (sound : Json.soundItems items = true) :
    jsonItems (ofItems items) = .ok items := by
  cases items with
  | nil => rfl
  | cons item rest =>
      obtain ⟨first, others⟩ := Bool.and_eq_true_iff.mp sound
      rw [ofItems, jsonItems, json_ofJson item first, jsonItems_ofItems rest others]
      rfl

theorem jsonMembers_ofMembers (members : List (String × Json))
    (sound : Json.soundMembers members = true) :
    jsonMembers (ofMembers members) = .ok members := by
  cases members with
  | nil => rfl
  | cons member rest =>
      obtain ⟨name, value⟩ := member
      obtain ⟨first, others⟩ := Bool.and_eq_true_iff.mp sound
      rw [ofMembers, jsonMembers, json_ofJson value first, jsonMembers_ofMembers rest others]
      rfl

end

mutual

theorem isWhole_ofJson (value : Json) : (ofJson value).isWhole = true := by
  cases value with
  | null | bool | number | text => rfl
  | list items => exact allWhole_ofItems items
  | object members => exact entriesWhole_ofMembers members

theorem allWhole_ofItems (items : List Json) : allWhole (ofItems items) = true := by
  cases items with
  | nil => rfl
  | cons item rest =>
      rw [ofItems, allWhole, isWhole_ofJson item, allWhole_ofItems rest]
      rfl

theorem entriesWhole_ofMembers (members : List (String × Json)) :
    entriesWhole (ofMembers members) = true := by
  cases members with
  | nil => rfl
  | cons member rest =>
      obtain ⟨name, value⟩ := member
      rw [ofMembers, entriesWhole, isWhole_ofJson value, entriesWhole_ofMembers rest]
      rfl

end

/-- Unless the value is null, it is what stands there. -/
theorem optional_ofJson {α : Type} (read : Node → Except Fault α) {value : Json}
    (present : value ≠ .null) :
    optional read (ofJson value) = (read (ofJson value)).map some := by
  cases value with
  | null => exact (present rfl).elim
  | bool | number | text | list | object => rfl

end Source.Node

end Rehearsal

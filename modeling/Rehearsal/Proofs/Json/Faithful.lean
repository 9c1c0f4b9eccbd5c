import Rehearsal.Proofs.Json.Narrow
import Rehearsal.Proofs.Json.RoundTrip

/-!
Formats that lose nothing.

A value is faithfully written if it is read back from what has been written, be it the value or its
text.  Nothing that is read from a text holds a number of more than 64 bits, so whatever text a
reader accepts, what it has read can be written and read again.
-/

namespace Rehearsal

open Source

namespace Source.Node

theorem ofItems_eq_map (items : List Json) : ofItems items = items.map ofJson := by
  induction items with
  | nil => rfl
  | cons item rest inductionHypothesis => rw [ofItems, inductionHypothesis, List.map_cons]

theorem listOf_ofJson {α : Type} {write : α → Json} {read : Node → Except Fault α}
    (back : ∀ value, read (ofJson (write value)) = .ok value) (values : List α) :
    listOf read (ofJson (.list (values.map write))) = .ok values := by
  rw [ofJson, ofItems_eq_map, List.map_map]
  refine mapM_eq_ok_iff.mpr (List.forall₂_map_left_iff.mpr (List.forall₂_same.mpr ?_))
  intro value _
  exact back value

end Source.Node

namespace Json

theorem plain_ofNat {n : Nat} (narrow : n < Nat.pow 2 64) : (ofNat n).plain = true :=
  decide_eq_true narrow

theorem plainItems_map {α : Type} {write : α → Json} {values : List α}
    (each : ∀ value ∈ values, (write value).plain = true) :
    plainItems (values.map write) = true := by
  induction values with
  | nil => rfl
  | cons value rest inductionHypothesis =>
      obtain ⟨first, others⟩ := List.forall_mem_cons.mp each
      rw [List.map_cons, plainItems, first, inductionHypothesis others]
      rfl

variable {α : Type} {write : α → Json} {take : Node → Except Fault α}

/-- Nothing is lost between what is written and what is read. -/
structure Faithful (write : α → Json) (take : Node → Except Fault α) : Prop where
  /-- Every value is read back from the JSON value that has been written. -/
  restored : ∀ value, take (.ofJson (write value)) = .ok value
  /-- It is read back from the text of that, unless a number in it takes more than 64 bits. -/
  reread : ∀ value, (write value).plain = true → decode take (write value).compact = .ok value
  /-- Whatever is read from a JSON value is read again once it has been written. -/
  stable : ∀ (json : Json) (value : α), take (.ofJson json) = .ok value →
    take (.ofJson (write value)) = .ok value
  /-- Whatever is read from a text is read again from the text of it. -/
  settled : ∀ (text : String) (value : α), decode take text = .ok value →
    (write value).plain = true ∧ decode take (write value).compact = .ok value

theorem decode_compact {json : Json} {value : α} (known : json.plain = true)
    (read : take (.ofJson json) = .ok value) : decode take json.compact = .ok value := by
  rw [decode, read_compact known]
  show (do
    let value ← take (.ofJson json)
    if true then .ok value else .error .unreadable) = Except.ok value
  rw [read]
  rfl

theorem Faithful.of_plain (restored : ∀ value, take (.ofJson (write value)) = .ok value)
    (plain : ∀ (node : Node) (value : α), node.Narrow → take node = .ok value →
      (write value).plain = true) : Faithful write take where
  restored := restored
  reread value known := decode_compact known (restored value)
  stable _ value _ := restored value
  settled text value done := by
    have known := plain _ value (Reader.read_narrow text) (decode_eq_ok done)
    exact ⟨known, decode_compact known (restored value)⟩

end Json

end Rehearsal

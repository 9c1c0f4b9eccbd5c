import Rehearsal.Proofs.Source.Settled

/-!
Trees without numbers of more than 64 bits.

Whatever is taken out of such a tree, settled or not, holds no such number either.
-/

namespace Rehearsal.Source

namespace Node

/-- No natural number of more than 64 bits is told by the tree. -/
inductive Narrow : Node → Prop where
  | scalar {words : Option Words} {value : Except Fault Atom} :
      (∀ n : Nat, value = .ok (.number (.integer n)) → n < Nat.pow 2 64) →
      Narrow (.scalar words value)
  | list {items : List Node} : (∀ item ∈ items, Narrow item) → Narrow (.list items)
  | map {entries : List (Node × Node)} :
      (∀ entry ∈ entries, Narrow entry.2) → Narrow (.map entries)
  | tagged {tag : String} {node : Node} : Narrow node → Narrow (.tagged tag node)
  | cut : Narrow .cut

variable {node : Node}

theorem Narrow.ofText (text : String) : (ofAtom (.text text)).Narrow :=
  .scalar (by rintro n ⟨⟩)

theorem Narrow.bare (narrow : node.Narrow) : node.bare.Narrow := by
  induction narrow with
  | scalar small => exact .scalar small
  | list items => exact .list items
  | map entries => exact .map entries
  | tagged _ inductionHypothesis => exact inductionHypothesis
  | cut => exact .cut

theorem Narrow.natural {expected : String} {n : Nat} (narrow : node.Narrow)
    (read : node.natural expected = .ok n) : n < Nat.pow 2 64 := by
  have bare := narrow.bare
  unfold Node.natural at read
  generalize node.bare = other at read bare
  split at read
  next value =>
    cases read
    cases bare with
    | scalar small => exact small _ rfl
  next => cases read
  next => exact (mismatch_ne_ok _ _ _ read).elim

theorem Narrow.item? {index : Nat} {item : Node} (narrow : node.Narrow)
    (found : node.item? index = some item) : item.Narrow := by
  have bare := narrow.bare
  unfold Node.item? at found
  generalize node.bare = other at found bare
  cases bare with
  | list items => exact items item (List.mem_of_getElem? found)
  | scalar | map | tagged | cut => cases found

theorem Narrow.under? {name : String} {value : Node} (narrow : node.Narrow)
    (found : node.under? name = some value) : value.Narrow := by
  have bare := narrow.bare
  unfold Node.under? at found
  generalize node.bare = other at found bare
  cases bare with
  | map entries =>
      obtain ⟨entry, here, rfl⟩ := Option.map_eq_some_iff.mp found
      exact entries entry (List.mem_of_find?_eq_some here)
  | scalar | list | tagged | cut => cases found

theorem Narrow.field? {known : List String} {name : String} {value : Node} (narrow : node.Narrow)
    (found : node.field? known name = some value) : value.Narrow := by
  rcases Option.or_eq_some_iff.mp found with item | ⟨-, entry⟩
  · exact narrow.item? item
  · exact narrow.under? entry

theorem Narrow.ofAtom {words : Option Words} {atom : Atom}
    (narrow : Narrow (.scalar words (.ok atom))) : (ofAtom atom).Narrow := by
  cases narrow with
  | scalar small => cases atom <;> exact .scalar small

theorem Narrow.settle {levels : Nat} {settled : Node} (narrow : node.Narrow)
    (done : node.settle levels = .ok settled) : settled.Narrow := by
  induction levels generalizing node settled with
  | zero =>
      rw [settle_eq_ok_iff] at done
      cases done with
      | scalar => exact narrow.ofAtom
  | succ levels inductionHypothesis =>
      rw [settle_eq_ok_iff] at done
      cases done with
      | scalar => exact narrow.ofAtom
      | list pairs =>
          cases narrow with
          | list items =>
              refine .list ?_
              intro other membership
              obtain ⟨item, inside, made⟩ := exists_of_mem_right pairs membership
              exact inductionHypothesis (items item inside) made
      | map pairs =>
          cases narrow with
          | map entries =>
              refine .map ?_
              intro other membership
              obtain ⟨entry, inside, -, value⟩ := exists_of_mem_right pairs membership
              exact inductionHypothesis (entries entry inside) value

/-- No value of a map holds such a number. -/
def NarrowEntries (entries : List (Node × Node)) : Prop :=
  ∀ entry ∈ entries, entry.2.Narrow

theorem NarrowEntries.nil : NarrowEntries [] := by
  rintro _ ⟨⟩

theorem NarrowEntries.cons {key value : Node} {rest : List (Node × Node)} (first : value.Narrow)
    (others : NarrowEntries rest) : NarrowEntries ((key, value) :: rest) :=
  List.forall_mem_cons.mpr ⟨first, others⟩

theorem Narrow.entries {expected : String} {entries : List (Node × Node)} (narrow : node.Narrow)
    (read : node.entries expected = .ok entries) : NarrowEntries entries := by
  have bare := narrow.bare
  unfold Node.entries at read
  generalize node.bare = other at read bare
  cases bare with
  | map values =>
      cases read
      exact values
  | scalar | list | tagged | cut =>
      dsimp only at read
      split at read
      · cases read
        exact .nil
      · exact (mismatch_ne_ok _ _ _ read).elim

theorem Kept.narrow {levels : Nat} {tag : String} {entries kept : List (Node × Node)}
    (keeps : Kept levels tag entries kept) (narrow : NarrowEntries entries) :
    NarrowEntries kept := by
  induction keeps with
  | nil => exact .nil
  | tag _ _ inductionHypothesis => exact inductionHypothesis (List.forall_mem_cons.mp narrow).2
  | other _ _ done _ inductionHypothesis =>
      obtain ⟨first, others⟩ := List.forall_mem_cons.mp narrow
      exact .cons (first.settle done) (inductionHypothesis others)

theorem Narrow.tagAndRest {levels : Nat} {title tag kind : String} {known : List String}
    {byIndex : Bool} {rest : Node} (narrow : node.Narrow)
    (done : node.tagAndRest levels title tag known byIndex = .ok (kind, rest)) :
    rest.Narrow := by
  unfold Node.tagAndRest at done
  split at done
  next => cases done
  next first others =>
    obtain ⟨_, -, done⟩ := exists_of_bind done
    obtain ⟨settled, mapped, same⟩ := exists_of_bind done
    cases same
    cases narrow with
    | list items =>
        refine .list ?_
        intro other membership
        obtain ⟨item, inside, made⟩ := exists_of_mem_mapM mapped membership
        exact (items item (.tail _ inside)).settle made
  next entries =>
    obtain ⟨⟨kind?, others⟩, splits, done⟩ := exists_of_bind done
    obtain ⟨kept, rfl, keeps⟩ := sift_keeps splits
    cases narrow with
    | map values =>
        cases kind? with
        | none => cases done
        | some held =>
            cases done
            exact .map (keeps.narrow values)
  next => exact (mismatch_ne_ok _ _ _ done).elim

theorem Narrow.listOf {α : Type} {read : Node → Except Fault α} {good : α → Prop}
    (each : ∀ item value, Narrow item → read item = .ok value → good value)
    (narrow : node.Narrow) {values : List α} (done : node.listOf read = .ok values) :
    ∀ value ∈ values, good value := by
  intro value membership
  obtain ⟨index, found⟩ := List.mem_iff_getElem?.mp membership
  obtain ⟨item, inside, made⟩ := item?_of_listOf done found
  exact each item value (narrow.item? inside) made

end Node

namespace Record

theorem required_narrow {α : Type} {policy : ListedRecords} {title name : String}
    {known : List String} {node : Node} {record : Record} {read : Node → Except Fault α} {value : α}
    (narrow : node.Narrow) (taken : ofNode policy title known node = .ok record)
    (reading : record.required name read = .ok value) :
    ∃ item : Node, item.Narrow ∧ read item = .ok value := by
  obtain ⟨item, written, made⟩ := required_eq_ok reading
  rw [written?_of_ofNode taken] at written
  exact ⟨item, narrow.field? written, made⟩

theorem natural_narrow {policy : ListedRecords} {title name expected : String}
    {known : List String} {node : Node} {record : Record} {n : Nat} (narrow : node.Narrow)
    (taken : ofNode policy title known node = .ok record)
    (reading : record.required name (Node.natural expected) = .ok n) : n < Nat.pow 2 64 := by
  obtain ⟨item, inside, read⟩ := required_narrow narrow taken reading
  exact inside.natural read

end Record

end Rehearsal.Source

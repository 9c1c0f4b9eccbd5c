import Rehearsal.Proofs.Source.Record
import Rehearsal.Source.Tagged

/-!
Settled trees.

Settling takes every scalar for what it says.  Whatever has been settled stays as it is when it is
settled once more, and it does not matter how deep it might have been nested.
-/

namespace Rehearsal.Source.Node

variable {levels : Nat} {node settled : Node}

/-- How a tree is settled. -/
inductive Settles : Nat → Node → Node → Prop where
  | scalar {levels : Nat} {words : Option Words} {atom : Atom} :
      (∀ wide, atom ≠ .wideInteger wide) →
      Settles levels (.scalar words (.ok atom)) (ofAtom atom)
  | list {levels : Nat} {items others : List Node} :
      List.Forall₂ (fun item other => item.settle levels = .ok other) items others →
      Settles (levels + 1) (.list items) (.list others)
  | map {levels : Nat} {entries others : List (Node × Node)} :
      List.Forall₂ (fun entry other => entry.1.settle levels = .ok other.1 ∧
        entry.2.settle levels = .ok other.2) entries others →
      Settles (levels + 1) (.map entries) (.map others)

theorem settle_entry_eq_ok_iff {entry other : Node × Node} :
    (do
        let key ← entry.1.settle levels
        let value ← entry.2.settle levels
        Except.ok (key, value)) = .ok other ↔
      entry.1.settle levels = .ok other.1 ∧ entry.2.settle levels = .ok other.2 := by
  constructor
  · intro both
    obtain ⟨key, first, behind⟩ := exists_of_bind both
    obtain ⟨value, second, same⟩ := exists_of_bind behind
    cases same
    exact ⟨first, second⟩
  · rintro ⟨first, second⟩
    rw [first, second]
    rfl

theorem settle_eq_ok_iff : node.settle levels = .ok settled ↔ Settles levels node settled := by
  constructor
  · intro done
    cases node with
    | scalar words value =>
        cases value with
        | error fault => cases levels <;> cases done
        | ok atom =>
            cases atom with
            | wideInteger value => cases levels <;> cases done
            | null | bool | number | text =>
                cases levels <;> cases done <;> exact .scalar (by rintro _ ⟨⟩)
    | list items =>
        cases levels with
        | zero => cases done
        | succ levels =>
            obtain ⟨others, mapped, same⟩ := exists_of_bind done
            cases same
            exact .list (mapM_eq_ok_iff.mp mapped)
    | map entries =>
        cases levels with
        | zero => cases done
        | succ levels =>
            obtain ⟨others, mapped, same⟩ := exists_of_bind done
            cases same
            exact .map ((mapM_eq_ok_iff.mp mapped).imp fun _ _ => settle_entry_eq_ok_iff.mp)
    | tagged | cut => cases levels <;> cases done
  · intro settles
    cases settles with
    | @scalar _ words atom narrow =>
        cases atom with
        | wideInteger value => exact (narrow value rfl).elim
        | null | bool | number | text => cases levels <;> rfl
    | list pairs =>
        rw [settle, mapM_eq_ok_iff.mpr pairs]
        rfl
    | map pairs =>
        rw [settle, mapM_eq_ok_iff.mpr (pairs.imp fun _ _ => settle_entry_eq_ok_iff.mpr)]
        rfl

/-- A settled tree stays as it is. -/
theorem settle_settle (done : node.settle levels = .ok settled) :
    settled.settle levels = .ok settled := by
  induction levels generalizing node settled with
  | zero =>
      rw [settle_eq_ok_iff] at done ⊢
      cases done with
      | @scalar _ _ atom narrow => cases atom <;> exact .scalar narrow
  | succ levels inductionHypothesis =>
      rw [settle_eq_ok_iff] at done ⊢
      cases done with
      | @scalar _ _ atom narrow => cases atom <;> exact .scalar narrow
      | list pairs =>
          refine .list (List.forall₂_same.mpr ?_)
          intro other membership
          obtain ⟨item, -, made⟩ := exists_of_mem_right pairs membership
          exact inductionHypothesis made
      | map pairs =>
          refine .map (List.forall₂_same.mpr ?_)
          intro other membership
          obtain ⟨entry, -, key, value⟩ := exists_of_mem_right pairs membership
          exact ⟨inductionHypothesis key, inductionHypothesis value⟩

theorem settle_of_le {more : Nat} (le : levels ≤ more) (done : node.settle levels = .ok settled) :
    node.settle more = .ok settled := by
  induction levels generalizing node settled more with
  | zero =>
      rw [settle_eq_ok_iff] at done ⊢
      cases done with
      | scalar narrow => exact .scalar narrow
  | succ levels inductionHypothesis =>
      obtain ⟨more, rfl⟩ := Nat.exists_eq_add_of_lt le
      rw [settle_eq_ok_iff] at done ⊢
      cases done with
      | scalar narrow => exact .scalar narrow
      | list pairs => exact .list (pairs.imp fun _ _ => inductionHypothesis (by omega))
      | map pairs =>
          exact .map (pairs.imp fun _ _ both =>
            ⟨inductionHypothesis (by omega) both.1, inductionHypothesis (by omega) both.2⟩)

theorem bare_of_settled (done : node.settle levels = .ok settled) : settled.bare = settled := by
  rw [settle_eq_ok_iff] at done
  cases done with
  | @scalar _ _ atom => cases atom <;> rfl
  | list | map => rfl

theorem found_of_settled (done : node.settle levels = .ok settled) :
    settled.found = node.found := by
  rw [settle_eq_ok_iff] at done
  cases done with
  | @scalar _ _ atom => cases atom <;> rfl
  | list | map => rfl

theorem optional_of_settled {α : Type} {read : Node → Except Fault α} {result : Option α}
    (done : node.settle levels = .ok settled) (taken : settled.optional read = .ok result) :
    node.found = .ok .null ∧ result = none ∨
      node.found ≠ .ok .null ∧ ∃ value, read settled = .ok value ∧ result = some value := by
  unfold optional at taken
  rw [bare_of_settled done] at taken
  rw [← found_of_settled done]
  split at taken
  next words =>
    cases taken
    exact .inl ⟨rfl, rfl⟩
  next other =>
    refine .inr ⟨?_, ?_⟩
    · intro null
      rw [settle_eq_ok_iff] at done
      cases done with
      | @scalar _ _ atom =>
          cases atom with
          | null => exact other none rfl
          | bool | wideInteger | text => cases null
          | number value => cases value <;> cases null
      | list | map => cases null
    · cases made : read settled with
      | error fault =>
          rw [made] at taken
          cases taken
      | ok value =>
          rw [made] at taken
          cases taken
          exact ⟨value, rfl, rfl⟩

/-- The entries of a map, settled, without the one that is the tag. -/
inductive Kept (levels : Nat) (tag : String) : List (Node × Node) → List (Node × Node) → Prop where
  | nil : Kept levels tag [] []
  | tag {key value : Node} {entries kept : List (Node × Node)} :
      key.words? = some tag → Kept levels tag entries kept →
      Kept levels tag ((key, value) :: entries) kept
  | other {key value settled : Node} {name : String} {entries kept : List (Node × Node)} :
      key.words? = some name → name ≠ tag → value.settle levels = .ok settled →
      Kept levels tag entries kept →
      Kept levels tag ((key, value) :: entries) ((ofAtom (.text name), settled) :: kept)

theorem under?_map_cons (key value : Node) (entries : List (Node × Node)) (name : String) :
    (map ((key, value) :: entries)).under? name =
      if key.words? = some name then some value else (map entries).under? name := by
  unfold under?
  by_cases said : key.words? = some name <;> simp [bare, said]

section

variable {tag name : String} {entries kept : List (Node × Node)}

theorem Kept.under? (keeps : Kept levels tag entries kept) (other : name ≠ tag) :
    (map entries).under? name = none ∧ (map kept).under? name = none ∨
      ∃ value settled, (map entries).under? name = some value ∧
        value.settle levels = .ok settled ∧ (map kept).under? name = some settled := by
  induction keeps with
  | nil => exact .inl ⟨rfl, rfl⟩
  | tag said _ inductionHypothesis =>
      have passed : ¬some tag = some name := fun same => other (Option.some.inj same).symm
      simpa only [under?_map_cons, said, if_neg passed] using inductionHypothesis
  | @other key value settled held entries kept said _ done _ inductionHypothesis =>
      have words : (ofAtom (.text held)).words? = some held := rfl
      simp only [under?_map_cons, said, words]
      by_cases same : held = name
      · exact .inr ⟨value, settled, by simp [same], done, by simp [same]⟩
      · simpa [same] using inductionHypothesis

/-- What is kept twice is written where it was, and has been settled. -/
theorem Kept.under?_trans {other : String} {rest : List (Node × Node)}
    (keeps : Kept levels tag entries kept) (again : Kept levels other kept rest)
    (beside : name ≠ tag) (besideToo : name ≠ other) :
    (map entries).under? name = none ∧ (map rest).under? name = none ∨
      ∃ value settled, (map entries).under? name = some value ∧
        value.settle levels = .ok settled ∧ (map rest).under? name = some settled := by
  rcases keeps.under? beside with ⟨unwritten, missing⟩ | ⟨value, settled, written, done, held⟩
  · rcases again.under? besideToo with ⟨-, still⟩ | ⟨value, settled, written, -⟩
    · exact .inl ⟨unwritten, still⟩
    · cases missing.symm.trans written
  · rcases again.under? besideToo with ⟨missing, -⟩ | ⟨value', settled', held', done', last⟩
    · cases held.symm.trans missing
    · cases held.symm.trans held'
      cases (settle_settle done).symm.trans done'
      exact .inr ⟨value, settled, written, done, last⟩

/-- Entries have been kept behind others, which are held in reverse. -/
def KeptBehind (levels : Nat) (tag : String) (before entries rest : List (Node × Node)) : Prop :=
  ∃ kept, rest = before.reverse ++ kept ∧ Kept levels tag entries kept

variable {before rest : List (Node × Node)} {key value : Node}

theorem keptBehind_nil (levels : Nat) (tag : String) (before : List (Node × Node)) :
    KeptBehind levels tag before [] before.reverse :=
  ⟨[], by simp, .nil⟩

theorem KeptBehind.pass (keeps : KeptBehind levels tag before entries rest)
    (said : key.words? = some tag) :
    KeptBehind levels tag before ((key, value) :: entries) rest := by
  obtain ⟨kept, split, keeps⟩ := keeps
  exact ⟨kept, split, .tag said keeps⟩

theorem KeptBehind.keep
    (keeps : KeptBehind levels tag ((ofAtom (.text name), settled) :: before) entries rest)
    (said : key.words? = some name) (different : name ≠ tag)
    (done : value.settle levels = .ok settled) :
    KeptBehind levels tag before ((key, value) :: entries) rest := by
  obtain ⟨kept, split, keeps⟩ := keeps
  refine ⟨(ofAtom (.text name), settled) :: kept, ?_, .other said different done keeps⟩
  rw [split, List.reverse_cons, List.append_assoc, List.singleton_append]

theorem sift_keeps {κ : Type} {expected : String} {read : Node → Except Fault κ}
    {own found : Option κ}
    (done : sift levels tag expected read own before entries = .ok (found, rest)) :
    KeptBehind levels tag before entries rest := by
  induction entries generalizing own before with
  | nil =>
      cases done
      exact keptBehind_nil levels tag before
  | cons entry others inductionHypothesis =>
      obtain ⟨key, value⟩ := entry
      obtain ⟨name, said, behind⟩ := exists_of_bind done
      have words := text_eq_ok_iff.mp said
      split at behind
      next same =>
        subst same
        split at behind
        next => cases behind
        next =>
          obtain ⟨own, -, goesOn⟩ := exists_of_bind behind
          exact (inductionHypothesis goesOn).pass words
      next different =>
        obtain ⟨settled, settles, goesOn⟩ := exists_of_bind behind
        exact (inductionHypothesis goesOn).keep words different settles

end

theorem under?_of_entries {node : Node} {expected : String} {entries : List (Node × Node)}
    (found : node.entries expected = .ok entries) (name : String) :
    node.under? name = (map entries).under? name := by
  unfold Node.entries at found
  unfold under?
  generalize node.bare = bare at found ⊢
  cases bare with
  | map others =>
      cases found
      rfl
  | scalar | list | tagged | cut =>
      dsimp only at found
      split at found
      · cases found
        rfl
      · exact (mismatch_ne_ok _ _ _ found).elim

theorem field?_map (entries : List (Node × Node)) (known : List String) (name : String) :
    (map entries).field? known name = (map entries).under? name := rfl

end Rehearsal.Source.Node

import Mathlib.Data.List.Basic
import Mathlib.Data.List.Induction
import Mathlib.Data.List.Nodup
import Rehearsal.Association

/-!
Writes to an association, one after the other.

An association is all that can be told from a sequence of writes without the values that were
written over: each name once, where it first came up, with what was last written under it.
-/

namespace Rehearsal.Association

variable {α β : Type} {name : String} {pairs : Association α} {writes : List (String × α)}

theorem insert_of_not_mem (fresh : name ∉ pairs.names) (value : α) :
    pairs.insert name value = pairs ++ [(name, value)] := by
  induction pairs with
  | nil => rfl
  | cons head rest inductionHypothesis =>
      obtain ⟨held, old⟩ := head
      obtain ⟨different, absent⟩ := not_or.mp (mt List.mem_cons.mpr fresh)
      rw [insert, if_neg (Ne.symm different), inductionHypothesis absent]
      rfl

theorem names_insert_of_mem (known : name ∈ pairs.names) (value : α) :
    (pairs.insert name value).names = pairs.names := by
  induction pairs with
  | nil => cases known
  | cons head rest inductionHypothesis =>
      obtain ⟨held, old⟩ := head
      by_cases same : held = name
      · rw [insert, if_pos same]
        rfl
      · have behind : name ∈ names rest :=
          (List.mem_cons.mp known).resolve_left (Ne.symm same)
        rw [insert, if_neg same]
        exact congrArg (held :: ·) (inductionHypothesis behind)

theorem get?_insert (name other : String) (value : α) (pairs : Association α) :
    (pairs.insert name value).get? other =
      if other = name then some value else pairs.get? other := by
  split
  next same => rw [same, get?_insert_self]
  next different => exact get?_insert_of_ne (Ne.symm different) value pairs

theorem get?_eq_none_iff : pairs.get? name = none ↔ name ∉ pairs.names := by
  induction pairs with
  | nil => simp [get?, names]
  | cons head rest inductionHypothesis =>
      obtain ⟨held, old⟩ := head
      by_cases same : held = name
      · simp [get?, names, same]
      · simpa [get?, names, same, Ne.symm same] using inductionHypothesis

theorem get?_filter_eq_none (keep : String × α → Bool) (absent : pairs.get? name = none) :
    get? name (pairs.filter keep) = none := by
  rw [get?_eq_none_iff] at absent ⊢
  intro membership
  obtain ⟨pair, kept, rfl⟩ := List.mem_map.mp membership
  exact absent (List.mem_map.mpr ⟨pair, List.mem_of_mem_filter kept, rfl⟩)

theorem get?_filter_ne_self (name : String) (pairs : Association α) :
    get? name (pairs.filter fun pair => pair.1 != name) = none := by
  rw [get?_eq_none_iff]
  intro membership
  obtain ⟨pair, kept, same⟩ := List.mem_map.mp membership
  have different := (List.mem_filter.mp kept).2
  simp [same] at different

theorem length_insert (name : String) (value : α) (pairs : Association α) :
    (pairs.insert name value).length =
      if pairs.contains name then pairs.length else pairs.length + 1 := by
  induction pairs with
  | nil => rfl
  | cons head rest inductionHypothesis =>
      obtain ⟨held, old⟩ := head
      unfold contains at inductionHypothesis ⊢
      by_cases same : held = name
      · simp [insert, get?, same]
      · simp only [insert, get?, same, if_false, List.length_cons, inductionHypothesis]
        split <;> rfl

/-- Under a name that stands once, what stands there is what is found. -/
theorem get?_of_mem {value : α} (distinct : pairs.names.Nodup)
    (membership : (name, value) ∈ pairs) : pairs.get? name = some value := by
  induction pairs with
  | nil => cases membership
  | cons head rest inductionHypothesis =>
      obtain ⟨held, old⟩ := head
      obtain ⟨fresh, others⟩ := List.nodup_cons.mp distinct
      rcases List.mem_cons.mp membership with here | behind
      · cases here
        rw [get?, if_pos rfl]
      · have different : held ≠ name := by
          rintro rfl
          exact fresh (List.mem_map.mpr ⟨_, behind, rfl⟩)
        rw [get?, if_neg different]
        exact inductionHypothesis others behind

theorem insert_map (f : α → β) (name : String) (value : α) (pairs : Association α) :
    insert name (f value) (pairs.map fun pair => (pair.1, f pair.2)) =
      (pairs.insert name value).map fun pair => (pair.1, f pair.2) := by
  induction pairs with
  | nil => rfl
  | cons head rest inductionHypothesis =>
      obtain ⟨held, old⟩ := head
      by_cases same : held = name <;> simp [insert, same, inductionHypothesis]

/-- The last pair of a list is written last. -/
theorem ofList_concat (writes : List (String × α)) (name : String) (value : α) :
    ofList (writes ++ [(name, value)]) = (ofList writes).insert name value := by
  rw [ofList, List.foldl_append]
  rfl

/-- The values may be changed before they are written or after it. -/
theorem ofList_map (f : α → β) (writes : List (String × α)) :
    ofList (writes.map fun pair => (pair.1, f pair.2)) =
      (ofList writes).map fun pair => (pair.1, f pair.2) := by
  induction writes using List.reverseRecOn with
  | nil => rfl
  | append_singleton writes last inductionHypothesis =>
      rw [List.map_append, List.map_singleton, ofList_concat, ofList_concat, inductionHypothesis,
        insert_map]

/-- What a sequence of writes leaves behind in an association. -/
structure Keeps (pairs : Association α) (writes : List (String × α)) : Prop where
  distinct : pairs.names.Nodup
  mem_names : ∀ name, name ∈ pairs.names ↔ name ∈ writes.map Prod.fst
  /-- A name stands where it was first written. -/
  ordered : pairs.names.Pairwise fun former latter =>
    (writes.map Prod.fst).idxOf former < (writes.map Prod.fst).idxOf latter
  /-- Under a name stands what was last written. -/
  latest : ∀ name, pairs.get? name = writes.reverse.lookup name

theorem Keeps.nil : Keeps ([] : Association α) [] where
  distinct := .nil
  mem_names _ := .rfl
  ordered := .nil
  latest _ := rfl

/-- One more write, under an old name or a new one. -/
theorem Keeps.insert (keeps : Keeps pairs writes) (name : String) (value : α) :
    Keeps (pairs.insert name value) (writes ++ [(name, value)]) := by
  have latest other : (pairs.insert name value).get? other =
      (writes ++ [(name, value)]).reverse.lookup other := by
    rw [get?_insert, keeps.latest, List.reverse_append, List.reverse_singleton,
      List.singleton_append, List.lookup_cons]
    by_cases same : other = name <;> simp [same, beq_eq_false_iff_ne.mpr]
  -- the names that are there already keep the places of their first writes
  have ordered : pairs.names.Pairwise fun former latter =>
      ((writes ++ [(name, value)]).map Prod.fst).idxOf former <
        ((writes ++ [(name, value)]).map Prod.fst).idxOf latter := by
    refine keeps.ordered.imp_of_mem ?_
    intro former latter first second lt
    rw [List.map_append, List.idxOf_append_of_mem ((keeps.mem_names _).mp first),
      List.idxOf_append_of_mem ((keeps.mem_names _).mp second)]
    exact lt
  by_cases known : name ∈ pairs.names
  · refine ⟨?_, ?_, ?_, latest⟩ <;> rw [names_insert_of_mem known]
    · exact keeps.distinct
    · intro other
      have written := (keeps.mem_names name).mp known
      rw [List.map_append, List.mem_append, keeps.mem_names]
      constructor
      · exact .inl
      · rintro (former | last)
        · exact former
        · rwa [List.mem_singleton.mp last]
    · exact ordered
  · have names : (pairs.insert name value).names = pairs.names ++ [name] := by
      rw [insert_of_not_mem known]
      exact List.map_append
    refine ⟨?_, ?_, ?_, latest⟩ <;> rw [names]
    · rw [← List.concat_eq_append, List.nodup_concat]
      exact ⟨known, keeps.distinct⟩
    · intro other
      rw [List.map_append, List.mem_append, List.mem_append, keeps.mem_names]
      rfl
    · refine List.pairwise_append.mpr ⟨ordered, List.pairwise_singleton _ _, ?_⟩
      intro former first latter last
      obtain rfl := List.mem_singleton.mp last
      have written := (keeps.mem_names former).mp first
      have absent := mt (keeps.mem_names latter).mpr known
      rw [List.map_append, List.idxOf_append_of_mem written, List.idxOf_append_of_notMem absent]
      have bound := List.idxOf_lt_length_of_mem written
      omega

/-- All writes of a list, from left to right. -/
theorem keeps_ofList (writes : List (String × α)) : Keeps (ofList writes) writes := by
  induction writes using List.reverseRecOn with
  | nil => exact .nil
  | append_singleton writes last inductionHypothesis =>
      rw [ofList_concat]
      exact inductionHypothesis.insert last.1 last.2

/-- A list in which no name comes up again stays as it is. -/
theorem ofList_of_nodup (distinct : (writes.map Prod.fst).Nodup) : ofList writes = writes := by
  induction writes using List.reverseRecOn with
  | nil => rfl
  | append_singleton writes last inductionHypothesis =>
      rw [List.map_append, List.map_singleton] at distinct
      obtain ⟨others, -, apart⟩ := List.nodup_append.mp distinct
      have same := inductionHypothesis others
      have fresh : last.1 ∉ names (ofList writes) := by
        rw [same]
        exact fun membership => apart _ membership _ (List.mem_singleton_self _) rfl
      rw [ofList_concat, insert_of_not_mem fresh, same]

end Rehearsal.Association

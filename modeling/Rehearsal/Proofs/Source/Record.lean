import Mathlib.Data.List.Forall2
import Rehearsal.Source.Record

/-!
Records and the nodes that they are read from.

A record that has been read shows where its fields are written: under their names in a map, or in
their places in a list.
-/

namespace Rehearsal

theorem exists_of_bind {α β ε : Type} {first : Except ε α} {next : α → Except ε β} {result : β}
    (bound : first >>= next = .ok result) :
    ∃ value, first = .ok value ∧ next value = .ok result := by
  cases first with
  | error error => cases bound
  | ok value => exact ⟨value, rfl, bound⟩

theorem mapError_eq_ok {α ε ε' : Type} {result : Except ε α} {f : ε → ε'} {value : α}
    (mapped : result.mapError f = .ok value) : result = .ok value := by
  cases result with
  | error error => cases mapped
  | ok found =>
      cases mapped
      rfl

theorem mapM_eq_ok_iff {α β ε : Type} {f : α → Except ε β} {values : List α} {results : List β} :
    values.mapM f = .ok results ↔
      List.Forall₂ (fun value result => f value = .ok result) values results := by
  constructor
  · intro mapped
    induction values generalizing results with
    | nil =>
        cases mapped
        exact .nil
    | cons value rest inductionHypothesis =>
        rw [List.mapM_cons] at mapped
        obtain ⟨head, first, behind⟩ := exists_of_bind mapped
        obtain ⟨tail, others, same⟩ := exists_of_bind behind
        cases same
        exact .cons first (inductionHypothesis others)
  · intro pairs
    induction pairs with
    | nil => rfl
    | cons first _ inductionHypothesis =>
        rw [List.mapM_cons, first, inductionHypothesis]
        rfl

theorem exists_of_getElem?_right {α β : Type} {R : α → β → Prop} {values : List α}
    {results : List β} (pairs : List.Forall₂ R values results) {index : Nat} {result : β}
    (found : results[index]? = some result) :
    ∃ value, values[index]? = some value ∧ R value result := by
  induction pairs generalizing index with
  | nil => cases found
  | cons first _ inductionHypothesis =>
      cases index with
      | zero =>
          cases found
          exact ⟨_, rfl, first⟩
      | succ index => exact inductionHypothesis found

theorem exists_of_mem_right {α β : Type} {R : α → β → Prop} {values : List α} {results : List β}
    (pairs : List.Forall₂ R values results) {result : β} (membership : result ∈ results) :
    ∃ value ∈ values, R value result := by
  obtain ⟨index, found⟩ := List.mem_iff_getElem?.mp membership
  obtain ⟨value, inside, related⟩ := exists_of_getElem?_right pairs found
  exact ⟨value, List.mem_of_getElem? inside, related⟩

theorem exists_of_mem_mapM {α β ε : Type} {f : α → Except ε β} {values : List α}
    {results : List β} (mapped : values.mapM f = .ok results) {result : β}
    (membership : result ∈ results) : ∃ value ∈ values, f value = .ok result :=
  exists_of_mem_right (mapM_eq_ok_iff.mp mapped) membership

namespace Source

namespace Placed

variable {α β : Type}

theorem apply_eq_ok {left : Placed (α → β)} {right : Placed α} {value : β}
    (applied : left.apply right = .ok value) :
    ∃ f a, left = .ok f ∧ right = .ok a ∧ f a = value := by
  unfold apply at applied
  split at applied
  next f a =>
    cases applied
    exact ⟨f, a, rfl, rfl, rfl⟩
  next => cases applied
  next => cases applied
  next => cases applied

section

variable {γ δ ε : Type} {first : Placed α} {second : Placed β} {third : Placed γ}
  {fourth : Placed δ}

theorem of_apply_eq_ok {make : α → β} {value : β}
    (applied : ((Placed.of make).apply first) = .ok value) :
    ∃ a, first = .ok a ∧ make a = value := by
  obtain ⟨f, a, start, here, same⟩ := apply_eq_ok applied
  cases start
  exact ⟨a, here, same⟩

theorem of_apply₂_eq_ok {make : α → β → γ} {value : γ}
    (applied : ((Placed.of make).apply first).apply second = .ok value) :
    ∃ a b, first = .ok a ∧ second = .ok b ∧ make a b = value := by
  obtain ⟨f, b, before, there, same⟩ := apply_eq_ok applied
  obtain ⟨a, here, rfl⟩ := of_apply_eq_ok before
  exact ⟨a, b, here, there, same⟩

theorem of_apply₃_eq_ok {make : α → β → γ → δ} {value : δ}
    (applied : (((Placed.of make).apply first).apply second).apply third = .ok value) :
    ∃ a b c, first = .ok a ∧ second = .ok b ∧ third = .ok c ∧ make a b c = value := by
  obtain ⟨f, c, before, there, same⟩ := apply_eq_ok applied
  obtain ⟨a, b, here, between, rfl⟩ := of_apply₂_eq_ok before
  exact ⟨a, b, c, here, between, there, same⟩

theorem of_apply₄_eq_ok {make : α → β → γ → δ → ε} {value : ε}
    (applied : ((((Placed.of make).apply first).apply second).apply third).apply fourth =
      .ok value) :
    ∃ a b c d, first = .ok a ∧ second = .ok b ∧ third = .ok c ∧ fourth = .ok d ∧
      make a b c d = value := by
  obtain ⟨f, d, before, there, same⟩ := apply_eq_ok applied
  obtain ⟨a, b, c, here, between, beyond, rfl⟩ := of_apply₃_eq_ok before
  exact ⟨a, b, c, d, here, between, beyond, there, same⟩

end

theorem settle_given_eq_ok {reading : Placed α} {condition : Placed Unit} {value : α}
    (settled : (reading.given condition).settle = .ok value) : reading = .ok value := by
  cases reading with
  | error fault => cases condition <;> cases settled
  | ok found =>
      cases condition with
      | error fault => cases settled
      | ok done =>
          cases settled
          rfl

end Placed

namespace Node

/-- What is said by a node that can be taken for a text. -/
def words? (node : Node) : Option String :=
  match node.bare with
  | .scalar (some words) _ => some words.text
  | _ => none

/-- The value under a name, where a node is a map. -/
def under? (name : String) (node : Node) : Option Node :=
  match node.bare with
  | .map entries => (entries.find? fun entry => entry.1.words? == some name).map Prod.snd
  | _ => none

def item? (index : Nat) (node : Node) : Option Node :=
  match node.bare with
  | .list items => items[index]?
  | _ => none

/-- The value of a field, where a node is a record with these fields. -/
def field? (known : List String) (name : String) (node : Node) : Option Node :=
  (node.item? (known.idxOf name)).or (node.under? name)

theorem mismatch_ne_ok {α : Type} (node : Node) (expected : String) (value : α) :
    node.mismatch expected ≠ .ok value := by
  unfold mismatch
  cases node.found <;> rintro ⟨⟩

theorem text_eq_ok_iff {node : Node} {expected words : String} :
    node.text expected = .ok words ↔ node.words? = some words := by
  unfold text words?
  generalize node.bare = bare
  cases bare with
  | scalar words value =>
      cases words with
      | none => simp [mismatch_ne_ok]
      | some words => simp
  | list | map | tagged | cut => simp [mismatch_ne_ok]

theorem bare_ne_tagged (node : Node) (tag : String) (other : Node) :
    node.bare ≠ .tagged tag other := by
  induction node using bare.induct with
  | case1 outer node inductionHypothesis => exact inductionHypothesis
  | case2 node untagged =>
      cases node with
      | tagged outer node => exact (untagged outer node rfl).elim
      | _ => rintro ⟨⟩

theorem item?_of_listOf {α : Type} {read : Node → Except Fault α} {node : Node}
    {values : List α} (listed : node.listOf read = .ok values) {index : Nat} {value : α}
    (found : values[index]? = some value) :
    ∃ item, node.item? index = some item ∧ read item = .ok value := by
  obtain ⟨items, taken, mapped⟩ := exists_of_bind listed
  obtain ⟨item, inside, made⟩ := exists_of_getElem?_right (mapM_eq_ok_iff.mp mapped) found
  unfold Node.items at taken
  unfold item?
  generalize node.bare = bare at taken ⊢
  cases bare with
  | list others =>
      cases taken
      exact ⟨item, inside, made⟩
  | scalar | map | tagged | cut =>
      dsimp only at taken
      split at taken
      · cases taken
        cases inside
      · exact (mismatch_ne_ok _ _ _ taken).elim

end Node

namespace Record

theorem map_snd_locate (name : String) (place : Nat) (entries : List (Node × Node)) :
    (locate name place
        (entries.map fun entry => (entry.1.text "field identifier", entry.2))).map Prod.snd =
      (entries.find? fun entry => entry.1.words? == some name).map Prod.snd := by
  induction entries generalizing place with
  | nil => rfl
  | cons entry rest inductionHypothesis =>
      rw [List.map_cons, List.find?_cons]
      cases said : entry.1.text "field identifier" with
      | error fault =>
          have silent : entry.1.words? ≠ some name := by
            intro words
            rw [Node.text_eq_ok_iff.mpr words] at said
            cases said
          rw [locate, inductionHypothesis, beq_eq_false_iff_ne.mpr silent]
      | ok held =>
          rw [locate, Node.text_eq_ok_iff.mp said]
          by_cases same : held = name
          · simp [same]
          · have different : (some held == some name) = false := by simp [same]
            rw [if_neg same, inductionHypothesis, different]

/-- The node from which a field would be read. -/
def written? (name : String) : Record → Option Node
  | .keyed _ _ entries => (locate name 0 entries).map Prod.snd
  | .listed _ known _ items => items[known.idxOf name]?

theorem written?_of_ofNode {policy : ListedRecords} {title : String} {known : List String}
    {node : Node} {record : Record} (taken : ofNode policy title known node = .ok record)
    (name : String) : record.written? name = node.field? known name := by
  unfold ofNode at taken
  unfold Node.field? Node.item? Node.under?
  generalize bared : node.bare = bare at taken ⊢
  cases bare with
  | list items =>
      cases policy with
      | refused => exact (Node.mismatch_ne_ok node title record taken).elim
      | exact | counted =>
          cases taken
          simp [written?]
  | map entries =>
      cases taken
      exact map_snd_locate name 0 entries
  | scalar words value =>
      -- Words that are left out stand for a map without entries.
      obtain ⟨entries, found, keyed⟩ := exists_of_bind taken
      unfold Node.entries at found
      dsimp only [Node.bare] at found
      split at found
      · cases found
        cases keyed
        rfl
      · exact (Node.mismatch_ne_ok _ _ _ found).elim
  | tagged tag other => exact (node.bare_ne_tagged tag other bared).elim
  | cut => cases taken

section

variable {α : Type} {record : Record} {name : String} {read : Node → Except Fault α} {value : α}

/-- A field is read from where it is written, if it is written at all. -/
theorem field_eq_ok {absent short : Fault → Except Fault α}
    (reading : record.field name read absent short = .ok value) :
    (∃ item, record.written? name = some item ∧ read item = .ok value) ∨
      record.written? name = none ∧
        ∃ fault, absent fault = .ok value ∨ short fault = .ok value := by
  unfold field at reading
  split at reading
  next title known entries =>
    rw [written?]
    split at reading
    next place item located => exact .inl ⟨item, by rw [located]; rfl, mapError_eq_ok reading⟩
    next missing => exact .inr ⟨by rw [missing]; rfl, _, .inl (mapError_eq_ok reading)⟩
  next title known policy items =>
    dsimp only at reading
    split at reading
    next item inside => exact .inl ⟨item, inside, mapError_eq_ok reading⟩
    next missing => exact .inr ⟨missing, _, .inr (mapError_eq_ok reading)⟩

theorem defaulted_eq_ok {default : α} (reading : record.defaulted name default read = .ok value) :
    record.written? name = none ∧ value = default ∨
      ∃ item, record.written? name = some item ∧ read item = .ok value := by
  rcases field_eq_ok reading with found | ⟨missing, fault, same | same⟩
  · exact .inr found
  · cases same
    exact .inl ⟨missing, rfl⟩
  · cases same
    exact .inl ⟨missing, rfl⟩

theorem required_eq_ok (reading : record.required name read = .ok value) :
    ∃ item, record.written? name = some item ∧ read item = .ok value := by
  rcases field_eq_ok reading with found | ⟨-, fault, refused | refused⟩
  · exact found
  · cases refused
  · cases refused

end

end Record

end Source

end Rehearsal

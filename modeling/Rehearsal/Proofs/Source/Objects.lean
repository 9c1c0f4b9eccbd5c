import Mathlib.Data.List.Nodup
import Mathlib.Data.List.Perm.Basic
import Rehearsal.Proofs.Json.Tree

/-!
Records written as JSON objects.

The fields of a record may stand in any order and among others that it does not know; one that has
its default may be left out.
-/

namespace Rehearsal

open Source

/-- A field of a record as it may be written in an object. -/
structure Slot where
  name : String
  /-- The JSON values that say what the record holds. -/
  accepts : Json → Prop
  /-- The record cannot be read without it. -/
  required : Bool
  /-- It says as much if it is left out. -/
  blank : Prop

namespace Slot

/-- A field that only one value is written for. -/
def needed (name : String) (value : Json) : Slot :=
  { name, accepts := (· = value), required := true, blank := False }

/-- A field that may be left out where it has its default. -/
def spare (name : String) (accepts : Json → Prop) (blank : Prop) : Slot :=
  { name, accepts, required := false, blank }

/-- A field that is left out, or null, where there is no value. -/
def optional (name : String) (value? : Option Json) : Slot :=
  spare name (· = value?.getD .null) (value? = none)

/-- A list, which may be left out where there is nothing in it. -/
def listed {α : Type} (name : String) (accepts : α → Json → Prop) (values : List α) : Slot :=
  spare name (fun json => ∃ items, json = .list items ∧ List.Forall₂ accepts values items)
    (values = [])

/-- Members of an object that fill slots one after the other. -/
inductive Filled : List Slot → List (String × Json) → Prop where
  | nil : Filled [] []
  | written {slot : Slot} {slots : List Slot} {value : Json} {members : List (String × Json)} :
      slot.accepts value → Filled slots members →
      Filled (slot :: slots) ((slot.name, value) :: members)
  | omitted {slot : Slot} {slots : List Slot} {members : List (String × Json)} :
      slot.blank → Filled slots members → Filled (slot :: slots) members

/-- The members of an object fill the slots in some order, and there may be others among them. -/
def Fit (slots : List Slot) (members : List (String × Json)) : Prop :=
  ∃ known unknown,
    Filled slots known ∧ (∀ member ∈ unknown, member.1 ∉ slots.map name) ∧
      members.Perm (known ++ unknown)

/-- An object that says what the record holds. -/
def Object (slots : List Slot) (json : Json) : Prop :=
  ∃ members, json = .object members ∧ Fit slots members

/-- The names of the fields without which the record cannot be read. -/
def demanded (slots : List Slot) : List String :=
  (slots.filter required).map name

theorem mem_names_of_mem_demanded {slots : List Slot} {held : String}
    (needed : held ∈ demanded slots) : held ∈ slots.map name := by
  obtain ⟨slot, inside, rfl⟩ := List.mem_map.mp needed
  exact List.mem_map_of_mem (List.mem_of_mem_filter inside)

theorem accepts_listed {α : Type} {accepts : α → Json → Prop} {write : α → Json} (name : String)
    (written : ∀ value, accepts value (write value)) (values : List α) :
    (listed name accepts values).accepts (.list (values.map write)) :=
  ⟨_, rfl, List.forall₂_map_right_iff.mpr (List.forall₂_same.mpr fun value _ => written value)⟩

theorem object_of_filled {slots : List Slot} {members : List (String × Json)}
    (filled : Filled slots members) : Object slots (.object members) :=
  ⟨members, rfl, members, [], filled, by simp, by simp⟩

end Slot

/-- The members of an object under a name. -/
def under (name : String) (members : List (String × Json)) : List (String × Json) :=
  members.filter fun member => member.1 == name

/-- The members of an object under other names. -/
def beside (name : String) (members : List (String × Json)) : List (String × Json) :=
  members.filter fun member => member.1 != name

/-- The members of an object once what stands under a name has been changed. -/
def alter (name : String) (change : Json → Json) (members : List (String × Json)) :
    List (String × Json) :=
  members.map fun member => if member.1 = name then (member.1, change member.2) else member

namespace Json

/-- An object without what stands under a name. -/
def without (name : String) : Json → Json
  | .object members => .object (beside name members)
  | other => other

/-- Changes what stands under a name in an object. -/
def change (name : String) (f : Json → Json) : Json → Json
  | .object members => .object (alter name f members)
  | other => other

/-- Changes an item of a list. -/
def changeItem (index : Nat) (f : Json → Json) : Json → Json
  | .list items => .list (items.modify index f)
  | other => other

end Json

/-- A slot is filled by one member of an object, or left out. -/
def Slot.Met (slot : Slot) (members : List (String × Json)) : Prop :=
  (∃ value, slot.accepts value ∧ under slot.name members = [(slot.name, value)]) ∨
    slot.blank ∧ under slot.name members = []

section

variable {name other : String} {value : Json} {members : List (String × Json)}

theorem under_append (name : String) (front back : List (String × Json)) :
    under name (front ++ back) = under name front ++ under name back :=
  List.filter_append ..

theorem under_cons_self (name : String) (value : Json) (members : List (String × Json)) :
    under name ((name, value) :: members) = (name, value) :: under name members :=
  List.filter_cons_of_pos (beq_self_eq_true name)

theorem under_cons_of_ne (different : other ≠ name) (value : Json)
    (members : List (String × Json)) :
    under name ((other, value) :: members) = under name members :=
  List.filter_cons_of_neg (by simpa using different)

theorem beside_cons_self (name : String) (value : Json) (members : List (String × Json)) :
    beside name ((name, value) :: members) = beside name members :=
  List.filter_cons_of_neg (by simp)

theorem beside_cons_of_ne (different : other ≠ name) (value : Json)
    (members : List (String × Json)) :
    beside name ((other, value) :: members) = (other, value) :: beside name members :=
  List.filter_cons_of_pos (by simpa using different)

theorem under_eq_nil_iff : under name members = [] ↔ name ∉ members.map Prod.fst := by
  rw [under, List.filter_eq_nil_iff]
  constructor
  · intro absent membership
    obtain ⟨member, inside, rfl⟩ := List.mem_map.mp membership
    exact absent member inside (beq_self_eq_true _)
  · intro absent member inside same
    exact absent (List.mem_map.mpr ⟨member, inside, eq_of_beq same⟩)

theorem under_beside (different : name ≠ other) (members : List (String × Json)) :
    under name (beside other members) = under name members := by
  rw [under, beside, List.filter_filter]
  refine List.filter_congr ?_
  intro member _
  by_cases same : member.1 = name <;> simp [same, different]

theorem under_beside_self (name : String) (members : List (String × Json)) :
    under name (beside name members) = [] := by
  rw [under, beside, List.filter_filter, List.filter_eq_nil_iff]
  intro member _
  simp

theorem beside_of_under_eq_nil (absent : under name members = []) :
    beside name members = members := by
  rw [beside, List.filter_eq_self]
  intro member inside
  rw [under, List.filter_eq_nil_iff] at absent
  simpa using absent member inside

theorem mem_of_under {others : List (String × Json)}
    (written : under name members = (name, value) :: others) : (name, value) ∈ members := by
  have inside : (name, value) ∈ under name members := written ▸ List.mem_cons_self
  exact List.mem_of_mem_filter inside

theorem mem_of_mem_beside {member : String × Json} (inside : member ∈ beside name members) :
    member ∈ members :=
  List.mem_of_mem_filter inside

theorem under_alter (name : String) (change : Json → Json) (members : List (String × Json)) :
    under name (alter name change members) =
      (under name members).map fun member => (member.1, change member.2) := by
  induction members with
  | nil => rfl
  | cons member rest inductionHypothesis =>
      obtain ⟨held, value⟩ := member
      rw [alter, List.map_cons, ← alter]
      by_cases same : held = name
      · subst same
        rw [if_pos rfl, under_cons_self, under_cons_self, inductionHypothesis, List.map_cons]
      · rw [if_neg same, under_cons_of_ne same, under_cons_of_ne same, inductionHypothesis]

end

namespace Slot

variable {slot : Slot} {slots : List Slot} {members : List (String × Json)}

theorem Filled.names (filled : Filled slots members) :
    ∀ held ∈ members.map Prod.fst, held ∈ slots.map name := by
  induction filled with
  | nil => simp
  | written _ _ inductionHypothesis =>
      rw [List.map_cons, List.map_cons, List.forall_mem_cons]
      exact ⟨List.mem_cons_self, fun held inside =>
        List.mem_cons_of_mem _ (inductionHypothesis held inside)⟩
  | omitted _ _ inductionHypothesis =>
      exact fun held inside => List.mem_cons_of_mem _ (inductionHypothesis held inside)

theorem Filled.met (filled : Filled slots members) (distinct : (slots.map name).Nodup) :
    ∀ slot ∈ slots, slot.Met members := by
  induction filled with
  | nil => simp
  | @written slot slots value members accepted filled inductionHypothesis =>
      obtain ⟨fresh, others⟩ := List.nodup_cons.mp distinct
      refine List.forall_mem_cons.mpr ⟨.inl ⟨value, accepted, ?_⟩, ?_⟩
      · have absent : under slot.name members = [] :=
          under_eq_nil_iff.mpr fun inside => fresh (filled.names _ inside)
        rw [under_cons_self, absent]
      · intro later inside
        have different : slot.name ≠ later.name := by
          intro same
          exact fresh (List.mem_map.mpr ⟨later, inside, same.symm⟩)
        have met := inductionHypothesis others later inside
        rwa [Met, ← under_cons_of_ne different value members] at met
  | @omitted slot slots members blank filled inductionHypothesis =>
      obtain ⟨fresh, others⟩ := List.nodup_cons.mp distinct
      have absent : under slot.name members = [] :=
        under_eq_nil_iff.mpr fun inside => fresh (filled.names _ inside)
      exact List.forall_mem_cons.mpr ⟨.inr ⟨blank, absent⟩, inductionHypothesis others⟩

/-- It makes no difference to a slot in what order the members stand, and what else there is. -/
theorem Fit.met (fit : Fit slots members) (distinct : (slots.map name).Nodup) :
    ∀ slot ∈ slots, slot.Met members := by
  obtain ⟨known, unknown, filled, others, permuted⟩ := fit
  intro slot inside
  have strange : under slot.name unknown = [] := by
    rw [under_eq_nil_iff]
    intro membership
    obtain ⟨member, there, same⟩ := List.mem_map.mp membership
    exact others member there (same ▸ List.mem_map_of_mem inside)
  have same : (under slot.name members).Perm (under slot.name known) := by
    have sorted := permuted.filter fun member => member.1 == slot.name
    rwa [← under, ← under, under_append, strange, List.append_nil] at sorted
  rcases filled.met distinct slot inside with ⟨value, accepts, written⟩ | ⟨blank, absent⟩
  · rw [written, List.perm_singleton] at same
    exact .inl ⟨value, accepts, same⟩
  · rw [absent, List.perm_nil] at same
    exact .inr ⟨blank, same⟩

theorem Met.beside (met : slot.Met members) {other : String} (different : slot.name ≠ other) :
    slot.Met (beside other members) := by
  rwa [Met, under_beside different]

theorem Met.of_needed {name : String} {value : Json} (met : (needed name value).Met members) :
    under name members = [(name, value)] := by
  rcases met with ⟨_, rfl, written⟩ | ⟨⟨⟩, -⟩
  exact written

theorem Met.length_le (met : slot.Met members) : (under slot.name members).length ≤ 1 := by
  rcases met with ⟨value, -, written⟩ | ⟨-, absent⟩
  · rw [written]
    exact Nat.le_refl _
  · rw [absent]
    exact Nat.zero_le _

end Slot

namespace Source.Node

section

variable {α : Type} {read : Node → Except Fault α} {items : List Json} {values : List α}

theorem listOf_ofItems {accepts : α → Json → Prop} (each : List.Forall₂ accepts values items)
    (taken : ∀ value ∈ values, ∀ item ∈ items, accepts value item →
      read (ofJson item) = .ok value) :
    listOf read (ofJson (.list items)) = .ok values := by
  show (ofItems items).mapM read = _
  induction each with
  | nil => rfl
  | @cons value item values items accepted _ inductionHypothesis =>
      have first := taken value List.mem_cons_self item List.mem_cons_self accepted
      have others := inductionHypothesis fun later there other inside =>
        taken later (List.mem_cons_of_mem value there) other (List.mem_cons_of_mem item inside)
      rw [ofItems, List.mapM_cons, first, others]
      rfl

theorem exists_of_listOf_ofItems (listed : listOf read (ofJson (.list items)) = .ok values)
    {item : Json} (inside : item ∈ items) : ∃ value, read (ofJson item) = .ok value := by
  replace listed : (ofItems items).mapM read = .ok values := listed
  induction items generalizing values with
  | nil => cases inside
  | cons first rest inductionHypothesis =>
      rw [ofItems, List.mapM_cons] at listed
      obtain ⟨value, here, behind⟩ := exists_of_bind listed
      obtain ⟨_, others, -⟩ := exists_of_bind behind
      rcases List.mem_cons.mp inside with rfl | later
      · exact ⟨value, here⟩
      · exact inductionHypothesis later others

end

section

variable {κ : Type} {levels : Nat} {tag expected : String} {read : Node → Except Fault κ}
  {members : List (String × Json)}

theorem sift_of_absent (absent : under tag members = [])
    (fits : ∀ member ∈ members, member.2.nesting ≤ levels) (kind : Option κ)
    (kept : List (Node × Node)) :
    sift levels tag expected read kind kept (ofMembers members) =
      .ok (kind, kept.reverse ++ ofMembers members) := by
  induction members generalizing kept with
  | nil => rw [ofMembers, sift, List.append_nil]
  | cons member rest inductionHypothesis =>
      obtain ⟨held, value⟩ := member
      obtain ⟨first, others⟩ := List.forall_mem_cons.mp fits
      have different : held ≠ tag := by
        rintro rfl
        rw [under_cons_self] at absent
        cases absent
      rw [under_cons_of_ne different] at absent
      have named : (ofAtom (.text held)).text expected = .ok held := rfl
      rw [ofMembers, sift, named]
      show (if held = tag then _ else _) = _
      rw [if_neg different, settle_ofJson value first]
      refine (inductionHypothesis absent others _).trans ?_
      rw [List.reverse_cons, List.append_assoc]
      rfl

theorem sift_of_under {value : Json} {kind : κ} (written : under tag members = [(tag, value)])
    (taken : read (ofJson value) = .ok kind)
    (fits : ∀ member ∈ members, member.2.nesting ≤ levels) (kept : List (Node × Node)) :
    sift levels tag expected read none kept (ofMembers members) =
      .ok (some kind, kept.reverse ++ ofMembers (beside tag members)) := by
  induction members generalizing kept with
  | nil => cases written
  | cons member rest inductionHypothesis =>
      obtain ⟨held, found⟩ := member
      obtain ⟨first, others⟩ := List.forall_mem_cons.mp fits
      have named : (ofAtom (.text held)).text expected = .ok held := rfl
      rw [ofMembers, sift, named]
      show (if held = tag then _ else _) = _
      by_cases same : held = tag
      · subst same
        rw [under_cons_self] at written
        obtain ⟨here, absent⟩ := List.cons.inj written
        cases here
        rw [if_pos rfl, taken]
        refine (sift_of_absent absent others _ _).trans ?_
        rw [beside_cons_self, beside_of_under_eq_nil absent]
      · rw [under_cons_of_ne same] at written
        rw [if_neg same, settle_ofJson found first]
        refine (inductionHypothesis written others _).trans ?_
        rw [beside_cons_of_ne same, List.reverse_cons, List.append_assoc]
        rfl

end

end Source.Node

namespace Source.Record

variable {α : Type} {title name : String} {known : List String} {members : List (String × Json)}

/-- The record that is read from the members of an object. -/
def ofMembers (title : String) (known : List String) (members : List (String × Json)) : Record :=
  .keyed title known ((Node.ofMembers members).map fun entry =>
    (entry.1.text "field identifier", entry.2))

theorem ofNode_ofMembers (policy : ListedRecords) (title : String) (known : List String)
    (members : List (String × Json)) :
    ofNode policy title known (.map (Node.ofMembers members)) =
      .ok (ofMembers title known members) := by
  cases policy <;> rfl

/-- The entry of a member. -/
def entryOf (member : String × Json) : Except Fault String × Node :=
  (.ok member.1, .ofJson member.2)

theorem ofMembers_eq (title : String) (known : List String) (members : List (String × Json)) :
    ofMembers title known members = .keyed title known (members.map entryOf) := by
  have entries : (Node.ofMembers members).map (fun entry =>
      (entry.1.text "field identifier", entry.2)) = members.map entryOf := by
    induction members with
    | nil => rfl
    | cons member rest inductionHypothesis =>
        rw [Node.ofMembers, List.map_cons, List.map_cons, inductionHypothesis]
        rfl
  rw [ofMembers, entries]

theorem locate_of_under {value : Json} {others : List (String × Json)} (place : Nat)
    (written : under name members = (name, value) :: others) :
    ∃ found, locate name place (members.map entryOf) = some (found, .ofJson value) := by
  induction members generalizing place with
  | nil => cases written
  | cons member rest inductionHypothesis =>
      obtain ⟨held, other⟩ := member
      by_cases same : held = name
      · subst same
        rw [under_cons_self] at written
        cases written
        exact ⟨place, if_pos rfl⟩
      · rw [under_cons_of_ne same] at written
        obtain ⟨found, located⟩ := inductionHypothesis (place + 1) written
        exact ⟨found, (if_neg same).trans located⟩

theorem locate_of_absent (place : Nat) (absent : under name members = []) :
    locate name place (members.map entryOf) = none := by
  induction members generalizing place with
  | nil => rfl
  | cons member rest inductionHypothesis =>
      obtain ⟨held, other⟩ := member
      by_cases same : held = name
      · subst same
        rw [under_cons_self] at absent
        cases absent
      · rw [under_cons_of_ne same] at absent
        exact (if_neg same).trans (inductionHypothesis (place + 1) absent)

section

variable {value : Json} {result default : α} {read : Node → Except Fault α}
  {absent short : Fault → Except Fault α}

theorem field_of_under (written : under name members = [(name, value)])
    (taken : read (.ofJson value) = .ok result) :
    (ofMembers title known members).field name read absent short = .ok result := by
  obtain ⟨place, located⟩ := locate_of_under 0 written
  rw [ofMembers_eq, field]
  simp only [located, taken]
  rfl

theorem defaulted_of_absent (missing : under name members = []) :
    (ofMembers title known members).defaulted name default read = .ok default := by
  rw [ofMembers_eq, defaulted, field]
  simp only [locate_of_absent 0 missing]
  rfl

theorem required_of_absent (missing : under name members = []) :
    (ofMembers title known members).required name read ≠ .ok result := by
  intro taken
  obtain ⟨item, written, -⟩ := required_eq_ok taken
  rw [ofMembers_eq, written?, locate_of_absent 0 missing] at written
  cases written

end

/-- A list is read if each of its items is. -/
theorem defaulted_of_listed {accepts : α → Json → Prop} {read : Node → Except Fault α}
    {values : List α} (met : (Slot.listed name accepts values).Met members)
    (taken : ∀ value ∈ values, ∀ json, json.nesting < Json.nestingMembers members →
      accepts value json → read (.ofJson json) = .ok value) :
    (ofMembers title known members).defaulted name [] (Node.listOf read) = .ok values := by
  rcases met with ⟨_, ⟨items, rfl, each⟩, written⟩ | ⟨rfl, absent⟩
  · refine field_of_under written (Node.listOf_ofItems each ?_)
    intro value there item inside
    have deep := Json.nesting_le_nestingMembers (mem_of_under written)
    have shallow := Json.nesting_le_nestingItems inside
    exact taken value there item (Nat.lt_of_le_of_lt shallow deep)
  · exact defaulted_of_absent absent

/-- A list is not read if there is an item in it that is not. -/
theorem defaulted_of_item {read : Node → Except Fault α} {items : List Json} {item : Json}
    (written : under name members = [(name, .list items)]) (inside : item ∈ items)
    (refused : ∀ value, read (.ofJson item) ≠ .ok value) (values : List α) :
    (ofMembers title known members).defaulted name [] (Node.listOf read) ≠ .ok values := by
  intro reading
  obtain ⟨place, located⟩ := locate_of_under 0 written
  rw [ofMembers_eq] at reading
  rcases defaulted_eq_ok reading with ⟨absent, -⟩ | ⟨list, found, listed⟩
  · rw [written?, located] at absent
    cases absent
  · rw [written?, located] at found
    cases found
    obtain ⟨value, read⟩ := Node.exists_of_listOf_ofItems listed inside
    exact refused value read

/-- A list is not read once an item in it has been changed so that it is not. -/
theorem defaulted_of_altered {accepts : α → Json → Prop} {read : Node → Except Fault α}
    {values : List α} (met : (Slot.listed name accepts values).Met members) {index : Nat}
    {value : α} (there : values[index]? = some value) {change : Json → Json}
    (refused : ∀ json, json.nesting < Json.nestingMembers members → accepts value json →
      ∀ result, read (.ofJson (change json)) ≠ .ok result) (results : List α) :
    (ofMembers title known (alter name (Json.changeItem index change) members)).defaulted name []
      (Node.listOf read) ≠ .ok results := by
  rcases met with ⟨_, ⟨items, rfl, each⟩, written⟩ | ⟨rfl, -⟩
  · obtain ⟨item, found, accepted⟩ := exists_of_getElem?_right (List.Forall₂.flip each) there
    have deep := Json.nesting_le_nestingMembers (mem_of_under written)
    have shallow := Json.nesting_le_nestingItems (List.mem_of_getElem? found)
    have altered : under name (alter name (Json.changeItem index change) members) =
        [(name, .list (items.modify index change))] := by
      rw [under_alter]
      exact congrArg (List.map _) written
    have inside : change item ∈ items.modify index change := by
      refine List.mem_iff_getElem?.mpr ⟨index, ?_⟩
      rw [List.getElem?_modify, found]
      simp
    exact defaulted_of_item altered inside
      (refused item (Nat.lt_of_le_of_lt shallow deep) accepted) results
  · cases there

/-- There is no flaw in an object if each known name stands at most once in it. -/
theorem flawless_ofMembers (title : String)
    (few : ∀ name ∈ known, (under name members).length ≤ 1) :
    (ofMembers title known members).flawless = .ok () := by
  suffices clean : ∀ place seen,
      (∀ name ∈ known, name ∈ seen → under name members = []) →
      firstFlaw known place seen (members.map entryOf) = .ok () by
    rw [ofMembers_eq]
    exact clean 0 [] (by simp)
  induction members with
  | nil => exact fun _ _ _ => rfl
  | cons member rest inductionHypothesis =>
      intro place seen fresh
      obtain ⟨held, value⟩ := member
      have further : ∀ name ∈ known, (under name rest).length ≤ 1 := by
        intro name inside
        refine Nat.le_trans (List.Sublist.length_le ?_) (few name inside)
        exact (List.sublist_cons_self _ rest).filter _
      have whole : (Node.ofJson value).skip = .ok () := if_pos (Node.isWhole_ofJson value)
      rw [List.map_cons, entryOf, firstFlaw]
      by_cases inside : held ∈ known
      · have once : under held rest = [] := by
          have single := few held inside
          rw [under_cons_self, List.length_cons] at single
          exact List.eq_nil_of_length_eq_zero (by omega)
        have unseen : held ∉ seen := by
          intro before
          have none := fresh held inside before
          rw [under_cons_self] at none
          cases none
        simp only [List.contains_iff_mem.mpr inside, if_true]
        rw [if_neg (by simpa using unseen)]
        refine inductionHypothesis further (place + 1) (held :: seen) ?_
        intro name known before
        rcases List.mem_cons.mp before with rfl | before
        · exact once
        · have none := fresh name known before
          by_cases same : held = name
          · subst same
            exact once
          · rwa [under_cons_of_ne same] at none
      · rw [if_neg (by simpa using inside), whole]
        refine inductionHypothesis further (place + 1) seen ?_
        intro name known before
        have none := fresh name known before
        have different : held ≠ name := by
          rintro rfl
          exact inside known
        rwa [under_cons_of_ne different] at none

theorem flawless_of_met (title : String) {slots : List Slot}
    (met : ∀ slot ∈ slots, slot.Met members) :
    (ofMembers title (slots.map Slot.name) members).flawless = .ok () := by
  refine flawless_ofMembers title ?_
  intro name inside
  obtain ⟨slot, listed, rfl⟩ := List.mem_map.mp inside
  exact (met slot listed).length_le

/-- A record is read from an object that fits its fields if each of them is. -/
theorem settle_of_met {slots : List Slot} (met : ∀ slot ∈ slots, slot.Met members)
    {reading : Placed α} {value : α} (read : reading = .ok value) :
    (reading.given (ofMembers title (slots.map Slot.name) members).flawless).settle =
      .ok value := by
  rw [read, flawless_of_met title met]
  rfl

end Source.Record

end Rehearsal

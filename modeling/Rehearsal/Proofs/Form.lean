import Mathlib.Data.Finset.Card
import Mathlib.Data.Finset.Dedup
import Rehearsal.Document.Reader
import Rehearsal.Proofs.Association
import Rehearsal.Proofs.Json.Faithful
import Rehearsal.Step.Action

/-!
Forms that are put together.

Fields are filled in one by one, taken from a list, or taken from the members of a JSON object.  All
of these come to the same: the fields are written one after the other, a name keeps the place of its
first write, and its value is that of the last.
-/

namespace Rehearsal

open Source

theorem Source.Node.ofMembers_eq_map (members : List (String × Json)) :
    ofMembers members =
      members.map fun member => (ofAtom (.text member.1), ofJson member.2) := by
  induction members with
  | nil => rfl
  | cons member rest inductionHypothesis => rw [ofMembers, inductionHypothesis, List.map_cons]

namespace FormData

/-- A member of a JSON object as a field: a text as it is, any other value as its compact text. -/
def textual : String × Json → String × String
  | (name, .text value) => (name, value)
  | (name, value) => (name, value.compact)

theorem textual_eq (member : String × Json) : textual member = (member.1, member.2.shown) := by
  obtain ⟨name, value⟩ := member
  cases value <;> rfl

/-- The ways in which a form is put together. -/
inductive Recipe where
  | blank
  /-- One more field in a form that has been put together before. -/
  | insert (name value : String) (earlier : Recipe)
  | ofList (pairs : List (String × String))
  | ofMembers (members : List (String × Json))

namespace Recipe

def make : Recipe → FormData
  | .blank => .empty
  | .insert name value earlier => earlier.make.insert name value
  | .ofList pairs => .ofList pairs
  | .ofMembers members => .ofMembers members

/-- The fields that are written, one after the other. -/
def writes : Recipe → List (String × String)
  | .blank => []
  | .insert name value earlier => earlier.writes ++ [(name, value)]
  | .ofList pairs => pairs
  | .ofMembers members => members.map textual

end Recipe

theorem ofList_concat (pairs : List (String × String)) (name value : String) :
    ofList (pairs ++ [(name, value)]) = (ofList pairs).insert name value := by
  rw [ofList, List.foldl_append]
  rfl

theorem fields_ofList (pairs : List (String × String)) :
    (ofList pairs).fields = Association.ofList pairs := by
  induction pairs using List.reverseRecOn with
  | nil => rfl
  | append_singleton pairs last inductionHypothesis =>
      rw [ofList_concat, Association.ofList_concat, insert, inductionHypothesis]

theorem ofMembers_eq_ofList (members : List (String × Json)) :
    ofMembers members = ofList (members.map textual) := by
  rw [ofMembers]
  congr 2
  exact (funext textual_eq).symm

/-- However a form is put together, it is the form of the list of its writes. -/
theorem Recipe.make_eq_ofList (recipe : Recipe) : recipe.make = .ofList recipe.writes := by
  induction recipe with
  | blank => rfl
  | insert name value earlier inductionHypothesis =>
      rw [make, writes, ofList_concat, inductionHypothesis]
  | ofList pairs => rfl
  | ofMembers members => exact ofMembers_eq_ofList members

/-- An object has its members in an association already when they become the fields of a form. -/
theorem ofMembers_association (members : List (String × Json)) :
    ofMembers (Association.ofList members) = ofList (members.map textual) := by
  have mapped : members.map textual = members.map fun member => (member.1, member.2.shown) :=
    List.map_congr_left fun member _ => textual_eq member
  have kept := Association.keeps_ofList (members.map textual)
  rw [ofMembers, ← Association.ofList_map, ← mapped]
  have same : (ofList (Association.ofList (members.map textual))).fields =
      (ofList (members.map textual)).fields := by
    rw [fields_ofList, fields_ofList, Association.ofList_of_nodup kept.distinct]
  exact congrArg mk same

/-- Every line of a listing starts with a tab, so there is something in it if there is a line. -/
theorem listing_eq_empty_iff (form : FormData) : form.listing = "" ↔ form.isEmpty = true := by
  obtain ⟨fields⟩ := form
  match fields with
  | [] => exact ⟨fun _ => rfl, fun _ => rfl⟩
  | [field] => simp [listing, line, isEmpty]
  | field :: next :: rest => simp [listing, line, isEmpty]

/-- What a form tells of the fields that were written, one after the other. -/
structure Keeps (form : FormData) (writes : List (String × String)) : Prop where
  /-- Each name stands once, in the place of its first write, over the value of its last. -/
  fields : form.fields.Keeps writes
  values : ∀ field ∈ form.fields, writes.reverse.lookup field.1 = some field.2
  sought : ∀ name, form.get? name = writes.reverse.lookup name
  absent : ∀ name, form.get? name = none ↔ name ∉ writes.map Prod.fst
  size : form.size = (writes.map Prod.fst).toFinset.card
  /-- A line for each field. -/
  listing : form.listing =
    "\n".intercalate (form.fields.map fun field => "\t" ++ field.1 ++ ": " ++ field.2)
  silent : form.listing = "" ↔ form.isEmpty = true
  blank : form.isEmpty = true ↔ writes = []
  /-- The step that fills in the form tells its fields, if there are any. -/
  info : ∀ message selector submit, (Action.fill message selector form submit).info =
    if form.isEmpty then none else some form.listing

theorem keeps_ofList (pairs : List (String × String)) : (ofList pairs).Keeps pairs := by
  have kept := Association.keeps_ofList pairs
  rw [← fields_ofList] at kept
  refine ⟨kept, ?_, kept.latest, ?_, ?_, rfl, listing_eq_empty_iff _, ?_, ?_⟩
  · intro field membership
    rw [← kept.latest]
    exact Association.get?_of_mem kept.distinct membership
  · intro name
    rw [← kept.mem_names]
    exact Association.get?_eq_none_iff
  · have names : (ofList pairs).fields.names.toFinset = (pairs.map Prod.fst).toFinset := by
      ext name
      rw [List.mem_toFinset, List.mem_toFinset, kept.mem_names]
    rw [← names, List.toFinset_card_of_nodup kept.distinct, Association.names, List.length_map,
      size]
  · rw [isEmpty, List.isEmpty_iff]
    constructor
    · intro empty
      refine List.eq_nil_iff_forall_not_mem.mpr ?_
      intro pair membership
      have known := (kept.mem_names pair.1).mpr (List.mem_map_of_mem membership)
      rw [empty] at known
      cases known
    · rintro rfl
      rfl
  · intro message selector submit
    by_cases empty : (ofList pairs).isEmpty = true
    · have silent := (listing_eq_empty_iff _).mpr empty
      simp [Action.fill, Action.onSelector, silent, empty]
    · have told := mt (listing_eq_empty_iff _).mp empty
      simp [Action.fill, Action.onSelector, told, empty]

/-- A member of a form: its name, and the JSON value that its own text comes to. -/
def memberOfNode (levels : Nat) (entry : Node × Node) : Except Fault (String × Json) := do
  let name ← entry.1.text "a string"
  let value ← (← entry.2.settle levels).json
  return (name, value)

/-- A form is read from an object as if its members were written in the order of the text. -/
theorem ofNode_map (levels : Nat) (entries : List (Node × Node)) :
    ofNode levels (.map entries) =
      (entries.mapM (memberOfNode levels)).map fun members => ofList (members.map textual) := by
  show (entries.mapM (memberOfNode levels)).bind
    (fun members => .ok (ofMembers (Association.ofList members))) = _
  cases entries.mapM (memberOfNode levels) with
  | error fault => rfl
  | ok members => exact congrArg Except.ok (ofMembers_association members)

theorem parse_of_read {text : String} {entries : List (Node × Node)}
    (read : Json.Reader.read text = (.map entries, true)) :
    parse text = (entries.mapM (memberOfNode (Manner.json.levels - 1))).map fun members =>
      ofList (members.map textual) := by
  rw [parse, Json.decode, read, ← ofNode_map]
  exact bind_pure _

theorem memberOfNode_text (levels : Nat) (name value : String) :
    memberOfNode levels (Node.ofAtom (.text name), Node.ofJson (.text value)) =
      .ok (name, .text value) := by
  cases levels <;> rfl

/-- A form is read back from the object of its fields, written down in whatever order and however
often. -/
theorem parse_compact (pairs : List (String × String)) :
    parse (Json.compact (.object (pairs.map fun pair => (pair.1, .text pair.2)))) =
      .ok (.ofList pairs) := by
  let members := pairs.map fun pair => (pair.1, Json.text pair.2)
  have plain : Json.plain (.object members) = true := by
    show Json.plainMembers members = true
    induction pairs with
    | nil => rfl
    | cons pair rest inductionHypothesis => exact inductionHypothesis
  have taken : (Node.ofMembers members).mapM (memberOfNode (Manner.json.levels - 1)) =
      .ok members := by
    rw [Node.ofMembers_eq_map, mapM_eq_ok_iff, List.forall₂_map_left_iff, List.forall₂_same]
    intro member membership
    obtain ⟨pair, -, rfl⟩ := List.mem_map.mp membership
    exact memberOfNode_text _ pair.1 pair.2
  have fields : members.map textual = pairs := by
    rw [List.map_map]
    exact List.map_id' pairs
  rw [parse_of_read (Json.read_compact plain), taken, ← fields]
  rfl

/-- Whichever way a form is put together, its names are distinct and stand where they came up first,
over the values that came last; and an object read from a text is the form of its members in the
order of the text. -/
theorem first_places_and_last_values :
    (∀ recipe : Recipe,
      recipe.make = .ofList recipe.writes ∧ recipe.make.Keeps recipe.writes) ∧
    (∀ levels entries, ofNode levels (.map entries) =
      (entries.mapM (memberOfNode levels)).map fun members => .ofList (members.map textual)) ∧
    (∀ text entries, Json.Reader.read text = (.map entries, true) →
      parse text = (entries.mapM (memberOfNode (Manner.json.levels - 1))).map fun members =>
        .ofList (members.map textual)) ∧
    ∀ pairs : List (String × String),
      parse (Json.compact (.object (pairs.map fun pair => (pair.1, .text pair.2)))) =
        .ok (.ofList pairs) := by
  refine ⟨?_, ofNode_map, fun _ _ => parse_of_read, parse_compact⟩
  intro recipe
  have same := recipe.make_eq_ofList
  refine ⟨same, ?_⟩
  rw [same]
  exact keeps_ofList recipe.writes

/-- An object in which a name comes up again, over another value. -/
def repeated : List (String × Json) :=
  [("b", .number (.integer 1)), ("a", .list [.bool true]), ("b", .text "x")]

theorem repeated_name_keeps_place :
    Json.Reader.read (Json.compact (.object repeated)) = (.map (Node.ofMembers repeated), true) ∧
      parse (Json.compact (.object repeated)) =
        .ok (.ofList [("b", "1"), ("a", "[true]"), ("b", "x")]) ∧
      (ofList [("b", "1"), ("a", "[true]"), ("b", "x")]).fields =
        [("b", "x"), ("a", "[true]")] := by
  have read : Json.Reader.read (Json.compact (.object repeated)) =
      (.map (Node.ofMembers repeated), true) := Json.read_compact (by decide)
  have taken : (Node.ofMembers repeated).mapM (memberOfNode (Manner.json.levels - 1)) =
      .ok repeated := by rfl
  have fields : repeated.map textual = [("b", "1"), ("a", "[true]"), ("b", "x")] := by decide
  refine ⟨read, ?_, by decide⟩
  rw [first_places_and_last_values.2.2.1 _ _ read, taken, ← fields]
  rfl

end FormData

end Rehearsal

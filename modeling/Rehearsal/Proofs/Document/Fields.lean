import Rehearsal.Proofs.Form
import Rehearsal.Proofs.Source.Objects

/-!
The fields of actions.

Each action has fields of its own, which are read once its name is known.  The action is read back
if they are there, and no action is read if one of those is missing that must be there.
-/

namespace Rehearsal

open Source

/-- The JSON value of a form. -/
def FormData.toJson (form : FormData) : Json :=
  .object (form.fields.map fun field => (field.1, .text field.2))

namespace ActionSpec

/-- The fields of an action as they may be written in the object of a step. -/
def slots : ActionSpec → List Slot
  | .am message selector | .click message selector | .find message selector
  | .findTheVisible message selector | .cannotFindThe message selector =>
      [.needed "message" (.text message), .needed "selector" (.text selector)]
  | .goTo message url => [.needed "message" (.text message), .needed "url" (.text url)]
  | .see message text | .canSee message text | .shouldNotSee message text =>
      [.needed "message" (.text message), .needed "text" (.text text)]
  | .reached message url urlRegex =>
      [.needed "message" (.text message), .optional "url" (url.map .text),
        .optional "url_regex" (urlRegex.map .text)]
  | .fill message selector fields autoSubmit =>
      [.needed "message" (.text message), .needed "selector" (.text selector),
        .spare "fields" (· = fields.toJson) (fields = .empty), .optional "auto_submit" autoSubmit]
  | .clickTheLabel label => [.needed "label" (.text label)]
  | .seeTheValueOf message selector expected =>
      [.needed "message" (.text message), .needed "selector" (.text selector),
        .needed "is" expected]
  | .noteDown message selector property =>
      [.needed "message" (.text message), .needed "selector" (.text selector),
        .needed "attribute" (.text property)]

/-- The action is one that a program can hold: the names of its fields are distinct, its values are
sound, and its flag is not null, which would say that there is none. -/
def Proper : ActionSpec → Prop
  | .fill _ _ fields autoSubmit =>
      fields.fields.names.Nodup ∧
        ∀ value, autoSubmit = some value → value ≠ .null ∧ value.sound = true
  | .seeTheValueOf _ _ expected => expected.sound = true
  | _ => True

end ActionSpec

/-- A form is read back from its JSON value. -/
theorem FormData.ofNode_toJson (levels : Nat) {form : FormData}
    (distinct : form.fields.names.Nodup) :
    ofNode levels (.ofJson form.toJson) = .ok form := by
  let members := form.fields.map fun field => (field.1, Json.text field.2)
  have taken : (Node.ofMembers members).mapM (memberOfNode levels) = .ok members := by
    rw [Node.ofMembers_eq_map]
    refine mapM_eq_ok_iff.mpr (List.forall₂_map_left_iff.mpr (List.forall₂_same.mpr ?_))
    intro member inside
    obtain ⟨field, -, rfl⟩ := List.mem_map.mp inside
    exact memberOfNode_text levels field.1 field.2
  have fields : members.map textual = form.fields := by
    rw [List.map_map]
    exact List.map_id' form.fields
  have same : (ofList form.fields).fields = form.fields := by
    rw [fields_ofList, Association.ofList_of_nodup distinct]
  have whole : ofList (members.map textual) = form := by
    rw [fields]
    exact congrArg FormData.mk same
  show ofNode levels (.map (Node.ofMembers members)) = _
  rw [ofNode_map, taken]
  exact congrArg Except.ok whole

namespace ActionSpec

variable {members : List (String × Json)}

theorem textField_of_met (title : String) (known : List String) {name text : String}
    (met : (Slot.needed name (.text text)).Met members) :
    textField (.ofMembers title known members) name = .ok text := by
  unfold textField Record.required
  exact Record.field_of_under met.of_needed rfl

/-- A text that may be left out. -/
theorem optionalText_of_met (title : String) (known : List String) {name : String}
    {text? : Option String} (met : (Slot.optional name (text?.map .text)).Met members) :
    (Record.ofMembers title known members).defaulted name none
      (Node.optional (Node.text "a string")) = .ok text? := by
  rcases met with ⟨_, rfl, written⟩ | ⟨blank, absent⟩
  · refine Record.field_of_under written ?_
    cases text? <;> rfl
  · cases text? with
    | none => exact Record.defaulted_of_absent absent
    | some text => cases blank

theorem pairOfNode_of_met (variant second : String) (make : String → String → ActionSpec)
    {message text : String}
    (met : ∀ slot ∈ [Slot.needed "message" (.text message), .needed second (.text text)],
      slot.Met members) :
    pairOfNode variant second make (.map (Node.ofMembers members)) = .ok (make message text) := by
  rw [pairOfNode, Record.ofNode_ofMembers]
  refine Record.settle_of_met met ?_
  obtain ⟨first, last⟩ := List.forall_mem_cons.mp met
  rw [textField_of_met _ _ first, textField_of_met _ _ (last _ List.mem_cons_self)]
  rfl

theorem reachedOfNode_of_met {message : String} {url urlRegex : Option String}
    (met : ∀ slot ∈ slots (.reached message url urlRegex), slot.Met members) :
    reachedOfNode (.map (Node.ofMembers members)) = .ok (.reached message url urlRegex) := by
  rw [reachedOfNode, Record.ofNode_ofMembers]
  refine Record.settle_of_met met ?_
  simp only [slots, List.forall_mem_cons] at met
  obtain ⟨first, second, third, -⟩ := met
  rw [textField_of_met _ _ first, optionalText_of_met _ _ second, optionalText_of_met _ _ third]
  rfl

theorem labelOfNode_of_met {label : String}
    (met : ∀ slot ∈ slots (.clickTheLabel label), slot.Met members) :
    labelOfNode (.map (Node.ofMembers members)) = .ok (.clickTheLabel label) := by
  rw [labelOfNode, Record.ofNode_ofMembers]
  refine Record.settle_of_met met ?_
  rw [textField_of_met _ _ (met _ List.mem_cons_self)]
  rfl

theorem noteOfNode_of_met {message selector property : String}
    (met : ∀ slot ∈ slots (.noteDown message selector property), slot.Met members) :
    noteOfNode (.map (Node.ofMembers members)) = .ok (.noteDown message selector property) := by
  rw [noteOfNode, Record.ofNode_ofMembers]
  refine Record.settle_of_met met ?_
  simp only [slots, List.forall_mem_cons] at met
  obtain ⟨first, second, third, -⟩ := met
  rw [textField_of_met _ _ first, textField_of_met _ _ second, textField_of_met _ _ third]
  rfl

theorem valueOfNode_of_met {message selector : String} {expected : Json}
    (proper : (seeTheValueOf message selector expected).Proper)
    (met : ∀ slot ∈ slots (.seeTheValueOf message selector expected), slot.Met members) :
    valueOfNode (.map (Node.ofMembers members)) =
      .ok (.seeTheValueOf message selector expected) := by
  rw [valueOfNode, Record.ofNode_ofMembers]
  refine Record.settle_of_met met ?_
  simp only [slots, List.forall_mem_cons] at met
  obtain ⟨first, second, third, -⟩ := met
  have value : (Record.ofMembers "struct variant ActionSpec::SeeTheValueOf"
      ["message", "selector", "is"] members).required "is" Node.json = .ok expected :=
    Record.field_of_under third.of_needed (Node.json_ofJson expected proper)
  rw [textField_of_met _ _ first, textField_of_met _ _ second, value]
  rfl

theorem fillOfNode_of_met {message selector : String} {fields : FormData}
    {autoSubmit : Option Json} (proper : (fill message selector fields autoSubmit).Proper)
    (met : ∀ slot ∈ slots (.fill message selector fields autoSubmit), slot.Met members) :
    fillOfNode (.map (Node.ofMembers members)) =
      .ok (.fill message selector fields autoSubmit) := by
  rw [fillOfNode, Record.ofNode_ofMembers]
  refine Record.settle_of_met met ?_
  simp only [slots, List.forall_mem_cons] at met
  obtain ⟨first, second, third, fourth, -⟩ := met
  obtain ⟨distinct, flag⟩ := proper
  have form : (Record.ofMembers "struct variant ActionSpec::Fill"
      ["message", "selector", "fields", "auto_submit"] members).defaulted "fields" .empty
        (FormData.ofNode Manner.settled.levels) = .ok fields := by
    rcases third with ⟨_, rfl, written⟩ | ⟨rfl, absent⟩
    · exact Record.field_of_under written (FormData.ofNode_toJson _ distinct)
    · exact Record.defaulted_of_absent absent
  have submit : (Record.ofMembers "struct variant ActionSpec::Fill"
      ["message", "selector", "fields", "auto_submit"] members).defaulted "auto_submit" none
        (Node.optional Node.json) = .ok autoSubmit := by
    rcases fourth with ⟨_, rfl, written⟩ | ⟨rfl, absent⟩
    · refine Record.field_of_under written ?_
      cases autoSubmit with
      | none => rfl
      | some value =>
          obtain ⟨present, sound⟩ := flag value rfl
          show Node.optional Node.json (.ofJson value) = _
          rw [Node.optional_ofJson Node.json present, Node.json_ofJson value sound]
          rfl
    · exact Record.defaulted_of_absent absent
  rw [textField_of_met _ _ first, textField_of_met _ _ second, form, submit]
  rfl

/-- Whatever the action is, it is read from its fields once its name is known. -/
theorem ofKind_of_met {action : ActionSpec} (proper : action.Proper)
    (met : ∀ slot ∈ action.slots, slot.Met members) :
    ofKind action.name (.map (Node.ofMembers members)) = .ok action := by
  cases action with
  | am | click | find | findTheVisible | cannotFindThe | goTo | see | canSee | shouldNotSee =>
      exact pairOfNode_of_met _ _ _ met
  | reached => exact reachedOfNode_of_met met
  | fill => exact fillOfNode_of_met proper met
  | clickTheLabel => exact labelOfNode_of_met met
  | seeTheValueOf => exact valueOfNode_of_met proper met
  | noteDown => exact noteOfNode_of_met met

section

variable {name : String} {result : ActionSpec}

theorem pairOfNode_of_absent (missing : under name members = []) (variant second : String)
    (make : String → String → ActionSpec) (needed : name ∈ ["message", second]) :
    pairOfNode variant second make (.map (Node.ofMembers members)) ≠ .ok result := by
  intro read
  obtain ⟨_, _, message, text, -⟩ := Placed.of_apply₂_eq_ok (Placed.settle_given_eq_ok read)
  rcases List.mem_pair.mp needed with rfl | rfl
  · exact Record.required_of_absent missing message
  · exact Record.required_of_absent missing text

/-- No action is read if a field is missing that must be there. -/
theorem ofKind_of_absent (missing : under name members = []) {action : ActionSpec}
    (needed : name ∈ Slot.demanded action.slots) :
    ofKind action.name (.map (Node.ofMembers members)) ≠ .ok result := by
  cases action with
  | am | click | find | findTheVisible | cannotFindThe | goTo | see | canSee | shouldNotSee =>
      exact pairOfNode_of_absent missing _ _ _ needed
  | reached =>
      intro read
      obtain ⟨_, _, _, message, -⟩ :=
        Placed.of_apply₃_eq_ok (Placed.settle_given_eq_ok read)
      obtain rfl : name = "message" := List.mem_singleton.mp needed
      exact Record.required_of_absent missing message
  | fill =>
      intro read
      obtain ⟨_, _, _, _, message, selector, -⟩ :=
        Placed.of_apply₄_eq_ok (Placed.settle_given_eq_ok read)
      rcases List.mem_pair.mp needed with rfl | rfl
      · exact Record.required_of_absent missing message
      · exact Record.required_of_absent missing selector
  | clickTheLabel =>
      intro read
      obtain ⟨_, label, -⟩ := Placed.of_apply_eq_ok (Placed.settle_given_eq_ok read)
      obtain rfl : name = "label" := List.mem_singleton.mp needed
      exact Record.required_of_absent missing label
  | seeTheValueOf =>
      intro read
      obtain ⟨_, _, _, message, selector, value, -⟩ :=
        Placed.of_apply₃_eq_ok (Placed.settle_given_eq_ok read)
      replace needed : name ∈ ["message", "selector", "is"] := needed
      simp only [List.mem_cons, List.not_mem_nil, or_false] at needed
      rcases needed with rfl | rfl | rfl
      · exact Record.required_of_absent missing message
      · exact Record.required_of_absent missing selector
      · exact Record.required_of_absent missing value
  | noteDown =>
      intro read
      obtain ⟨_, _, _, message, selector, property, -⟩ :=
        Placed.of_apply₃_eq_ok (Placed.settle_given_eq_ok read)
      replace needed : name ∈ ["message", "selector", "attribute"] := needed
      simp only [List.mem_cons, List.not_mem_nil, or_false] at needed
      rcases needed with rfl | rfl | rfl
      · exact Record.required_of_absent missing message
      · exact Record.required_of_absent missing selector
      · exact Record.required_of_absent missing property

end

end ActionSpec

end Rehearsal

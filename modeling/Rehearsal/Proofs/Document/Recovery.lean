import Rehearsal.Proofs.Document.Fields

/-!
Documents written as JSON values and read back.

The keys of an object may stand in any order and among others, and what has its default may be left
out.  A document does not come back if a key is missing that must be there.
-/

namespace Rehearsal

open Source

/-- The members of the object of a step that belong to its action. -/
def ActionSpec.members : ActionSpec → List (String × Json)
  | .am message selector | .click message selector | .find message selector
  | .findTheVisible message selector | .cannotFindThe message selector =>
      [("message", .text message), ("selector", .text selector)]
  | .goTo message url => [("message", .text message), ("url", .text url)]
  | .see message text | .canSee message text | .shouldNotSee message text =>
      [("message", .text message), ("text", .text text)]
  | .reached message url urlRegex =>
      [("message", .text message), ("url", .ofText? url), ("url_regex", .ofText? urlRegex)]
  | .fill message selector fields autoSubmit =>
      [("message", .text message), ("selector", .text selector), ("fields", fields.toJson),
        ("auto_submit", autoSubmit.getD .null)]
  | .clickTheLabel label => [("label", .text label)]
  | .seeTheValueOf message selector expected =>
      [("message", .text message), ("selector", .text selector), ("is", expected)]
  | .noteDown message selector property =>
      [("message", .text message), ("selector", .text selector), ("attribute", .text property)]

theorem ActionSpec.filled_members (action : ActionSpec) :
    Slot.Filled action.slots action.members := by
  cases action with
  | am | click | find | findTheVisible | cannotFindThe | goTo | see | canSee | shouldNotSee =>
      exact .written rfl (.written rfl .nil)
  | reached message url urlRegex =>
      cases url <;> cases urlRegex <;>
        exact .written rfl (.written rfl (.written rfl .nil))
  | fill => exact .written rfl (.written rfl (.written rfl (.written rfl .nil)))
  | clickTheLabel => exact .written rfl .nil
  | seeTheValueOf | noteDown => exact .written rfl (.written rfl (.written rfl .nil))

theorem Voice.ofNode_name (voice : Voice) :
    ofNode .json (.ofJson (.text voice.name)) = .ok voice := by
  cases voice <;> rfl

/-- What is left beside the name of an action are its fields. -/
theorem ActionSpec.ofNode_ofMembers {levels : Nat} {members : List (String × Json)}
    {action : ActionSpec} (named : under "action" members = [("action", .text action.name)])
    (fits : ∀ member ∈ members, member.2.nesting ≤ levels) :
    ofNode levels (.map (Node.ofMembers members)) =
      ofKind action.name (.map (Node.ofMembers (beside "action" members))) := by
  have kind : (Node.ofJson (.text action.name)).variant true names = .ok action.name := by
    cases action <;> rfl
  show ((Node.sift levels "action" "a string" (Node.variant true names) none []
    (Node.ofMembers members)).bind _).bind _ = _
  rw [Node.sift_of_under named kind fits]
  rfl

namespace StepSpec

def slots (step : StepSpec) : List Slot :=
  .needed "voice" (.text step.voice.name) :: .needed "action" (.text step.action.name) ::
    step.action.slots

/-- A JSON value that says what the step does. -/
def Written (step : StepSpec) : Json → Prop :=
  Slot.Object step.slots

def toJson (step : StepSpec) : Json :=
  .object (("voice", .text step.voice.name) :: ("action", .text step.action.name) ::
    step.action.members)

theorem written_toJson (step : StepSpec) : step.Written step.toJson :=
  Slot.object_of_filled (.written rfl (.written rfl step.action.filled_members))

theorem names_nodup (step : StepSpec) : (step.slots.map Slot.name).Nodup := by
  obtain ⟨voice, action⟩ := step
  cases action <;>
    simp [slots, ActionSpec.slots, Slot.needed, Slot.optional, Slot.spare]

/-- Neither the voice nor the name of the action is among the fields of the action. -/
theorem ne_of_mem_names (step : StepSpec) {name : String}
    (inside : name ∈ step.action.slots.map Slot.name) : name ≠ "voice" ∧ name ≠ "action" := by
  obtain ⟨notVoice, others⟩ := List.nodup_cons.mp step.names_nodup
  obtain ⟨notAction, -⟩ := List.nodup_cons.mp others
  constructor
  · rintro rfl
    exact notVoice (List.mem_cons_of_mem _ inside)
  · rintro rfl
    exact notAction inside

section

variable {levels : Nat} {members : List (String × Json)}

/-- What is left beside the voice of a step and the name of its action are the fields of that
action. -/
theorem ofNode_ofMembers {voice : Voice} {action : ActionSpec}
    (voiced : under "voice" members = [("voice", .text voice.name)])
    (named : under "action" members = [("action", .text action.name)])
    (fits : ∀ member ∈ members, member.2.nesting ≤ levels) :
    ofNode .json levels (.map (Node.ofMembers members)) =
      (ActionSpec.ofKind action.name
        (.map (Node.ofMembers (beside "action" (beside "voice" members))))).map
        fun action => { voice, action } := by
  have namedToo : under "action" (beside "voice" members) = [("action", .text action.name)] := by
    rw [under_beside (by decide), named]
  have fitsToo : ∀ member ∈ beside "voice" members, member.2.nesting ≤ levels :=
    fun member inside => fits member (mem_of_mem_beside inside)
  show (Node.sift levels "voice" "field identifier" (Voice.ofNode .json) none []
    (Node.ofMembers members)).bind _ = _
  rw [Node.sift_of_under voiced voice.ofNode_name fits]
  show ((ActionSpec.ofNode levels (.map (Node.ofMembers (beside "voice" members)))).bind _) = _
  rw [ActionSpec.ofNode_ofMembers namedToo fitsToo]
  rfl

theorem ofNode_of_voiceless (missing : under "voice" members = [])
    (fits : ∀ member ∈ members, member.2.nesting ≤ levels) (result : StepSpec) :
    ofNode .json levels (.map (Node.ofMembers members)) ≠ .ok result := by
  show (Node.sift levels "voice" "field identifier" (Voice.ofNode .json) none []
    (Node.ofMembers members)).bind _ ≠ _
  rw [Node.sift_of_absent missing fits]
  rintro ⟨⟩

theorem ofNode_of_nameless {voice : Voice}
    (voiced : under "voice" members = [("voice", .text voice.name)])
    (missing : under "action" members = [])
    (fits : ∀ member ∈ members, member.2.nesting ≤ levels) (result : StepSpec) :
    ofNode .json levels (.map (Node.ofMembers members)) ≠ .ok result := by
  have missingToo : under "action" (beside "voice" members) = [] := by
    rw [under_beside (by decide), missing]
  have fitsToo : ∀ member ∈ beside "voice" members, member.2.nesting ≤ levels :=
    fun member inside => fits member (mem_of_mem_beside inside)
  show (Node.sift levels "voice" "field identifier" (Voice.ofNode .json) none []
    (Node.ofMembers members)).bind _ ≠ _
  rw [Node.sift_of_under voiced voice.ofNode_name fits]
  show (((Node.sift levels "action" "a string" (Node.variant true ActionSpec.names) none []
    (Node.ofMembers (beside "voice" members))).bind _).bind _).bind _ ≠ _
  rw [Node.sift_of_absent missingToo fitsToo]
  rintro ⟨⟩

variable {step : StepSpec}

/-- A step is read back from its members. -/
theorem ofNode_of_met (proper : step.action.Proper) (met : ∀ slot ∈ step.slots, slot.Met members)
    (fits : ∀ member ∈ members, member.2.nesting ≤ levels) :
    ofNode .json levels (.map (Node.ofMembers members)) = .ok step := by
  obtain ⟨voiced, others⟩ := List.forall_mem_cons.mp met
  obtain ⟨named, fields⟩ := List.forall_mem_cons.mp others
  have kept : ∀ slot ∈ step.action.slots,
      slot.Met (beside "action" (beside "voice" members)) := by
    intro slot inside
    obtain ⟨notVoice, notAction⟩ := step.ne_of_mem_names (List.mem_map_of_mem inside)
    exact ((fields slot inside).beside notVoice).beside notAction
  rw [ofNode_ofMembers voiced.of_needed named.of_needed fits, ActionSpec.ofKind_of_met proper kept]
  rfl

/-- A step is not read if a field is missing that must be there. -/
theorem ofNode_of_absent (met : ∀ slot ∈ step.slots, slot.Met members)
    (fits : ∀ member ∈ members, member.2.nesting ≤ levels) {name : String}
    (needed : name ∈ Slot.demanded step.slots) (result : StepSpec) :
    ofNode .json levels (.map (Node.ofMembers (beside name members))) ≠ .ok result := by
  obtain ⟨voiced, others⟩ := List.forall_mem_cons.mp met
  obtain ⟨named, -⟩ := List.forall_mem_cons.mp others
  have fitsToo : ∀ member ∈ beside name members, member.2.nesting ≤ levels :=
    fun member inside => fits member (mem_of_mem_beside inside)
  have missing := under_beside_self name members
  replace needed : name ∈ "voice" :: "action" :: Slot.demanded step.action.slots := needed
  rcases List.mem_cons.mp needed with rfl | needed
  · exact ofNode_of_voiceless missing fitsToo result
  rcases List.mem_cons.mp needed with rfl | needed
  · have different : "voice" ≠ "action" := by decide
    exact ofNode_of_nameless (voiced.beside different).of_needed missing fitsToo result
  obtain ⟨notVoice, notAction⟩ :=
    step.ne_of_mem_names (Slot.mem_names_of_mem_demanded needed)
  have voicedToo := (voiced.beside notVoice.symm).of_needed
  have namedToo := (named.beside notAction.symm).of_needed
  have missingToo : under name (beside "action" (beside "voice" (beside name members))) = [] := by
    rw [under_beside notAction, under_beside notVoice, missing]
  intro read
  rw [ofNode_ofMembers voicedToo namedToo fitsToo] at read
  obtain ⟨action, taken, -⟩ := exists_of_bind read
  exact ActionSpec.ofKind_of_absent missingToo needed taken

variable {json : Json}

/-- A step is read back from a JSON value that says what it does. -/
theorem ofNode_of_written (proper : step.action.Proper) (written : step.Written json)
    (fits : json.nesting ≤ levels + 1) : ofNode .json levels (.ofJson json) = .ok step := by
  obtain ⟨members, rfl, fit⟩ := written
  exact ofNode_of_met proper (fit.met step.names_nodup) (Json.nesting_le_of_object fits)

theorem ofNode_without (written : step.Written json) (fits : json.nesting ≤ levels + 1)
    {name : String} (needed : name ∈ Slot.demanded step.slots) (result : StepSpec) :
    ofNode .json levels (.ofJson (json.without name)) ≠ .ok result := by
  obtain ⟨members, rfl, fit⟩ := written
  exact ofNode_of_absent (fit.met step.names_nodup) (Json.nesting_le_of_object fits) needed result

end

end StepSpec

namespace ScenarioSpec

def slots (scenario : ScenarioSpec) : List Slot :=
  [.needed "name" (.text scenario.name),
    .listed "depends_on" (fun name json => json = .text name) scenario.dependsOn,
    .listed "steps" StepSpec.Written scenario.steps]

/-- A JSON value that says what is in the scenario. -/
def Written (scenario : ScenarioSpec) : Json → Prop :=
  Slot.Object scenario.slots

def toJson (scenario : ScenarioSpec) : Json :=
  .object [
    ("name", .text scenario.name),
    ("depends_on", .list (scenario.dependsOn.map .text)),
    ("steps", .list (scenario.steps.map StepSpec.toJson))]

theorem written_toJson (scenario : ScenarioSpec) : scenario.Written scenario.toJson := by
  have names : (Slot.listed "depends_on" (fun name json => json = .text name)
      scenario.dependsOn).accepts (.list (scenario.dependsOn.map Json.text)) :=
    Slot.accepts_listed "depends_on" (by intro name; rfl) scenario.dependsOn
  have steps := Slot.accepts_listed "steps" StepSpec.written_toJson scenario.steps
  exact Slot.object_of_filled (.written rfl (.written names (.written steps .nil)))

theorem names_nodup (scenario : ScenarioSpec) : (scenario.slots.map Slot.name).Nodup :=
  (by decide : ["name", "depends_on", "steps"].Nodup)

section

variable {levels : Nat} {scenario : ScenarioSpec} {json : Json}

/-- A scenario is read back from a JSON value that says what is in it. -/
theorem ofNode_of_written (proper : ∀ step ∈ scenario.steps, step.action.Proper)
    (written : scenario.Written json) (fits : json.nesting ≤ levels + 1) :
    ofNode .json levels (.ofJson json) = .ok scenario := by
  obtain ⟨members, rfl, fit⟩ := written
  have met := fit.met scenario.names_nodup
  obtain ⟨name, others⟩ := List.forall_mem_cons.mp met
  obtain ⟨dependsOn, others⟩ := List.forall_mem_cons.mp others
  obtain ⟨steps, -⟩ := List.forall_mem_cons.mp others
  have deep : Json.nestingMembers members ≤ levels := Nat.le_of_succ_le_succ fits
  have named : (Record.ofMembers "struct ScenarioSpec" ["name", "depends_on", "steps"]
      members).required "name" (Node.text "a string") = .ok scenario.name :=
    Record.field_of_under name.of_needed rfl
  have listed : (Record.ofMembers "struct ScenarioSpec" ["name", "depends_on", "steps"]
      members).defaulted "depends_on" [] (Node.listOf (Node.text "a string")) =
        .ok scenario.dependsOn := by
    refine Record.defaulted_of_listed dependsOn ?_
    rintro name - _ - rfl
    rfl
  have taken : (Record.ofMembers "struct ScenarioSpec" ["name", "depends_on", "steps"]
      members).defaulted "steps" [] (Node.listOf (StepSpec.ofNode .json (levels - 2))) =
        .ok scenario.steps := by
    refine Record.defaulted_of_listed steps ?_
    intro step inside json shallow written
    exact StepSpec.ofNode_of_written (proper step inside) written (by omega)
  rw [ofNode, Node.ofJson, Record.ofNode_ofMembers]
  refine Record.settle_of_met met ?_
  rw [named, listed, taken]
  rfl

theorem ofNode_without (written : scenario.Written json) {name : String}
    (needed : name ∈ Slot.demanded scenario.slots) (result : ScenarioSpec) :
    ofNode .json levels (.ofJson (json.without name)) ≠ .ok result := by
  obtain ⟨members, rfl, -⟩ := written
  obtain rfl : name = "name" := List.mem_singleton.mp needed
  intro read
  rw [Json.without, ofNode, Node.ofJson, Record.ofNode_ofMembers] at read
  obtain ⟨_, _, _, named, -⟩ := Placed.of_apply₃_eq_ok (Placed.settle_given_eq_ok read)
  exact Record.required_of_absent (under_beside_self "name" members) named

/-- A scenario is not read if one of its steps is without a field that must be there. -/
theorem ofNode_change (written : scenario.Written json) (fits : json.nesting ≤ levels + 1)
    {j : Nat} {step : StepSpec} (there : scenario.steps[j]? = some step) {name : String}
    (needed : name ∈ Slot.demanded step.slots) (result : ScenarioSpec) :
    ofNode .json levels
      (.ofJson (json.change "steps" (Json.changeItem j (Json.without name)))) ≠ .ok result := by
  obtain ⟨members, rfl, fit⟩ := written
  have deep : Json.nestingMembers members ≤ levels := Nat.le_of_succ_le_succ fits
  have steps : (Slot.listed "steps" StepSpec.Written scenario.steps).Met members :=
    fit.met scenario.names_nodup _ (by simp [slots])
  intro read
  rw [Json.change, ofNode, Node.ofJson, Record.ofNode_ofMembers] at read
  obtain ⟨_, _, _, -, -, taken, -⟩ := Placed.of_apply₃_eq_ok (Placed.settle_given_eq_ok read)
  refine Record.defaulted_of_altered steps there ?_ _ taken
  intro json shallow written
  exact StepSpec.ofNode_without written (by omega) needed

end

end ScenarioSpec

namespace Document

def slots (document : Document) : List Slot :=
  [.needed "entry_url" (.text document.entryUrl),
    .listed "scenarios" ScenarioSpec.Written document.scenarios]

/-- A JSON value that says what is in the document. -/
def Written (document : Document) : Json → Prop :=
  Slot.Object document.slots

def toJson (document : Document) : Json :=
  .object [
    ("entry_url", .text document.entryUrl),
    ("scenarios", .list (document.scenarios.map ScenarioSpec.toJson))]

/-- Each action of the document is one that a program can hold. -/
def Proper (document : Document) : Prop :=
  ∀ scenario ∈ document.scenarios, ∀ step ∈ scenario.steps, step.action.Proper

theorem written_toJson (document : Document) : document.Written document.toJson := by
  have scenarios := Slot.accepts_listed "scenarios" ScenarioSpec.written_toJson document.scenarios
  exact Slot.object_of_filled (.written rfl (.written scenarios .nil))

theorem names_nodup (document : Document) : (document.slots.map Slot.name).Nodup :=
  (by decide : ["entry_url", "scenarios"].Nodup)

/-- Takes a document out of the tree of a JSON text whose reader grants so many levels. -/
def ofNodeWithin (levels : Nat) (node : Node) : Except Fault Document := do
  let record ← Record.ofNode .exact "struct ScenarioDocument" ["entry_url", "scenarios"] node
  let reading := Placed.of Document.mk
    |>.apply (record.required "entry_url" (Node.text "a string"))
    |>.apply (record.defaulted "scenarios" []
      (Node.listOf (ScenarioSpec.ofNode .json (levels - 3))))
  (reading.given record.flawless).settle

theorem ofNode_json : ofNode .json = ofNodeWithin Manner.json.levels :=
  rfl

/-- Reads a document from a JSON value. -/
def ofValue (levels : Nat) (json : Json) : Except Error Document :=
  (ofNodeWithin levels (.ofJson json)).mapError fun fault => .document (.malformed .json fault)

/-- The reader of a text goes on with the JSON value of the text. -/
theorem ofJson_of_read {text : String} {json : Json}
    (read : Json.Reader.read text = (.ofJson json, true)) :
    ofJson text = ofValue Manner.json.levels json := by
  rw [ofJson, Json.decode, read, ofNode_json]
  exact congrArg (Except.mapError _) (bind_pure _)

/-- The way to a key in the JSON value of a document. -/
inductive Omission where
  | ofDocument (name : String)
  | ofScenario (i : Nat) (name : String)
  | ofStep (i j : Nat) (name : String)

namespace Omission

/-- Takes the key out of a JSON value. -/
def apply : Omission → Json → Json
  | .ofDocument name, json => json.without name
  | .ofScenario i name, json =>
      json.change "scenarios" (Json.changeItem i (Json.without name))
  | .ofStep i j name, json =>
      json.change "scenarios" (Json.changeItem i
        (Json.change "steps" (Json.changeItem j (Json.without name))))

/-- The key is there and must be there. -/
def Harmful (document : Document) : Omission → Prop
  | .ofDocument name => name ∈ Slot.demanded document.slots
  | .ofScenario i name =>
      ∃ scenario, document.scenarios[i]? = some scenario ∧ name ∈ Slot.demanded scenario.slots
  | .ofStep i j name =>
      ∃ scenario step, document.scenarios[i]? = some scenario ∧
        scenario.steps[j]? = some step ∧ name ∈ Slot.demanded step.slots

end Omission

section

variable {levels : Nat} {document : Document} {json : Json}

theorem ofNodeWithin_of_written (proper : document.Proper) (written : document.Written json)
    (fits : json.nesting ≤ levels) : ofNodeWithin levels (.ofJson json) = .ok document := by
  obtain ⟨members, rfl, fit⟩ := written
  have met := fit.met document.names_nodup
  obtain ⟨entryUrl, others⟩ := List.forall_mem_cons.mp met
  obtain ⟨scenarios, -⟩ := List.forall_mem_cons.mp others
  have deep : Json.nestingMembers members < levels := fits
  have addressed : (Record.ofMembers "struct ScenarioDocument" ["entry_url", "scenarios"]
      members).required "entry_url" (Node.text "a string") = .ok document.entryUrl :=
    Record.field_of_under entryUrl.of_needed rfl
  have taken : (Record.ofMembers "struct ScenarioDocument" ["entry_url", "scenarios"]
      members).defaulted "scenarios" [] (Node.listOf (ScenarioSpec.ofNode .json (levels - 3))) =
        .ok document.scenarios := by
    refine Record.defaulted_of_listed scenarios ?_
    intro scenario inside json shallow written
    exact ScenarioSpec.ofNode_of_written (proper scenario inside) written (by omega)
  rw [ofNodeWithin, Node.ofJson, Record.ofNode_ofMembers]
  refine Record.settle_of_met met ?_
  rw [addressed, taken]
  rfl

/-- Without a key that must be there no document is read. -/
theorem ofNodeWithin_of_harmful (written : document.Written json) (fits : json.nesting ≤ levels)
    {omission : Omission} (harmful : omission.Harmful document) (result : Document) :
    ofNodeWithin levels (.ofJson (omission.apply json)) ≠ .ok result := by
  obtain ⟨members, rfl, fit⟩ := written
  have deep : Json.nestingMembers members < levels := fits
  have scenarios : (Slot.listed "scenarios" ScenarioSpec.Written document.scenarios).Met members :=
    fit.met document.names_nodup _ (by simp [slots])
  intro read
  cases omission with
  | ofDocument name =>
      obtain rfl : name = "entry_url" := List.mem_singleton.mp harmful
      rw [Omission.apply, Json.without, ofNodeWithin, Node.ofJson,
        Record.ofNode_ofMembers] at read
      obtain ⟨_, _, addressed, -⟩ := Placed.of_apply₂_eq_ok (Placed.settle_given_eq_ok read)
      exact Record.required_of_absent (under_beside_self "entry_url" members) addressed
  | ofScenario i name =>
      obtain ⟨scenario, there, needed⟩ := harmful
      rw [Omission.apply, Json.change, ofNodeWithin, Node.ofJson, Record.ofNode_ofMembers] at read
      obtain ⟨_, _, -, taken, -⟩ := Placed.of_apply₂_eq_ok (Placed.settle_given_eq_ok read)
      refine Record.defaulted_of_altered scenarios there ?_ _ taken
      intro json _ written
      exact ScenarioSpec.ofNode_without written needed
  | ofStep i j name =>
      obtain ⟨scenario, step, there, here, needed⟩ := harmful
      rw [Omission.apply, Json.change, ofNodeWithin, Node.ofJson, Record.ofNode_ofMembers] at read
      obtain ⟨_, _, -, taken, -⟩ := Placed.of_apply₂_eq_ok (Placed.settle_given_eq_ok read)
      refine Record.defaulted_of_altered scenarios there ?_ _ taken
      intro json shallow written
      exact ScenarioSpec.ofNode_change written (by omega) here needed

end

/-- A document is read back from its JSON value and from each other one that says the same, and
from none of them once a key is left out that must be there. -/
theorem recovered (document : Document) (proper : document.Proper) :
    document.Written document.toJson ∧
    (∀ json levels, document.Written json → json.nesting ≤ levels →
      ofValue levels json = .ok document ∧
      ∀ omission : Omission, omission.Harmful document →
        ∃ fault, ofValue levels (omission.apply json) =
          .error (.document (.malformed .json fault))) ∧
    ∀ text json, Json.Reader.read text = (.ofJson json, true) →
      ofJson text = ofValue Manner.json.levels json := by
  refine ⟨document.written_toJson, ?_, fun _ _ => ofJson_of_read⟩
  intro json levels written fits
  constructor
  · rw [ofValue, ofNodeWithin_of_written proper written fits]
    rfl
  · intro omission harmful
    rw [ofValue]
    cases read : ofNodeWithin levels (.ofJson (omission.apply json)) with
    | error fault => exact ⟨fault, rfl⟩
    | ok result => exact (ofNodeWithin_of_harmful written fits harmful result read).elim

/-- A document of two steps. -/
def cart : Document :=
  { entryUrl := "https://shop.test"
    scenarios := [
      { name := "Cart"
        dependsOn := []
        steps := [
          { voice := .when, action := .reached "the cart" (some "/cart") none },
          { voice := .and
            action := .fill "the voucher" "form" { fields := [("code", "x")] }
              (some (.bool false)) }] }] }

/-- The same document with its keys in the opposite order, one more key in each object, and without
the list of dependencies. -/
def cartBackwards : Json :=
  .object [
    ("author", .list [.null]),
    ("scenarios", .list [
      .object [
        ("remark", .text ""),
        ("steps", .list [
          .object [
            ("note", .object []), ("url_regex", .null), ("url", .text "/cart"),
            ("message", .text "the cart"), ("action", .text "reached"), ("voice", .text "when")],
          .object [
            ("url", .null), ("auto_submit", .bool false),
            ("fields", .object [("code", .text "x")]), ("selector", .text "form"),
            ("message", .text "the voucher"), ("action", .text "fill"), ("voice", .text "and")]]),
        ("name", .text "Cart")]]),
    ("entry_url", .text "https://shop.test")]

theorem written_cartBackwards : cart.Written cartBackwards := by
  -- In each object the members are those of the slots and the one more, read backwards.
  refine ⟨_, rfl, _, [("author", .list [.null])],
    .written rfl (.written ⟨_, rfl, .cons ?scenario .nil⟩ .nil),
    by decide, (List.reverse_perm _).symm⟩
  refine ⟨_, rfl, _, [("remark", .text "")],
    .written rfl (.omitted rfl (.written ⟨_, rfl, .cons ?reached (.cons ?fill .nil)⟩ .nil)),
    by decide, (List.reverse_perm _).symm⟩
  case reached =>
    exact ⟨_, rfl, _, [("note", .object [])],
      .written rfl (.written rfl (.written rfl (.written rfl (.written rfl .nil)))),
      by decide, (List.reverse_perm _).symm⟩
  case fill =>
    exact ⟨_, rfl, _, [("url", .null)],
      .written rfl (.written rfl (.written rfl (.written rfl (.written rfl (.written rfl .nil))))),
      by decide, (List.reverse_perm _).symm⟩

theorem recovered_cart :
    cart.Proper ∧ cart.Written cartBackwards ∧ cartBackwards.nesting ≤ Manner.json.levels ∧
      (Omission.ofStep 0 1 "selector").Harmful cart ∧
      ofValue Manner.json.levels cartBackwards = .ok cart ∧
      ∃ fault, ofValue Manner.json.levels ((Omission.ofStep 0 1 "selector").apply cartBackwards) =
        .error (.document (.malformed .json fault)) := by
  have proper : cart.Proper := by
    simp [Proper, cart, ActionSpec.Proper, Json.sound, Association.names]
  have fits : cartBackwards.nesting ≤ Manner.json.levels := by decide
  have harmful : (Omission.ofStep 0 1 "selector").Harmful cart :=
    ⟨_, _, rfl, rfl, by decide⟩
  obtain ⟨read, refused⟩ :=
    (recovered cart proper).2.1 cartBackwards Manner.json.levels written_cartBackwards fits
  exact ⟨proper, written_cartBackwards, fits, harmful, read, refused _ harmful⟩

end Document

end Rehearsal

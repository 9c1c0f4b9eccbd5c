import Rehearsal.Source.Record

/-!
The ways in which a format lets typed values be written.

Each of the formats has a manner of its own.  A tree can also be settled first: every scalar is
taken for what it says, and what is read from the tree after that no longer depends on the format.
-/

namespace Rehearsal.Source

inductive Manner where
  | json
  | yaml
  | toml
  | settled
  deriving DecidableEq, Repr

namespace Manner

def listedRecords : Manner → ListedRecords
  | .json => .exact
  | .settled => .counted
  | .yaml | .toml => .refused

/-- How many lists and maps may stand one within the other. -/
def levels : Manner → Nat
  | .json => 127
  | .yaml | .toml | .settled => 128

end Manner

/-- JSON says `null` and may write a double with an exponent. -/
def Wording.json : Wording :=
  { null := "null", real := Binary64.compact }

/-- The other formats call the missing value a unit and write every digit of a double. -/
def Wording.common : Wording :=
  { null := "unit value", real := Binary64.plain }

def Manner.wording : Manner → Wording
  | .json => .json
  | _ => .common

namespace Node

/-- Takes every scalar for what it says.  `levels` bounds how deep the value may be nested. -/
def settle : Nat → Node → Except Fault Node
  | _, .scalar _ (.ok (.wideInteger value)) =>
      .error (.invalidType (.wideInteger value) "any value")
  | _, .scalar _ (.ok value) => .ok (ofAtom value)
  | _, .scalar _ (.error fault) => .error fault
  | levels + 1, .list items => do
      .ok (.list (← items.mapM (settle levels)))
  | levels + 1, .map entries => do
      .ok (.map (← entries.mapM fun entry => do
        let key ← settle levels entry.1
        let value ← settle levels entry.2
        .ok (key, value)))
  | _, _ => .error .unreadable

mutual

/-- The JSON value that a settled tree writes.  A double that is no number becomes null, and the
name of a member must be a text. -/
def json : Node → Except Fault Json
  | .scalar _ (.ok .null) => .ok .null
  | .scalar _ (.ok (.bool value)) => .ok (.bool value)
  | .scalar _ (.ok (.number (.integer value))) => .ok (.number (.integer value))
  | .scalar _ (.ok (.number (.real value))) =>
      .ok (if value.isFinite then .number (.real value) else .null)
  | .scalar _ (.ok (.wideInteger value)) =>
      .error (.invalidType (.wideInteger value) "any valid JSON value")
  | .scalar _ (.ok (.text value)) => .ok (.text value)
  | .scalar _ (.error fault) => .error fault
  | .list items => (jsonItems items).map .list
  | .map [] => .ok (.object [])
  | .map ((key, node) :: rest) => do
      let name ← key.text "a string key"
      let value ← json node
      return .ofMembers ((name, value) :: (← jsonMembers rest))
  | .tagged .. | .cut => .error .unreadable

def jsonItems : List Node → Except Fault (List Json)
  | [] => .ok []
  | item :: rest => do
      let value ← json item
      .ok (value :: (← jsonItems rest))

def jsonMembers : List (Node × Node) → Except Fault (List (String × Json))
  | [] => .ok []
  | (key, node) :: rest => do
      let name ← key.text "a string"
      let value ← json node
      .ok ((name, value) :: (← jsonMembers rest))

end

/-- The name of a variant: one of the known names or, where `byIndex`, its place among them. -/
def variant (byIndex : Bool) (known : List String) (node : Node) : Except Fault String :=
  match node.bare with
  | .scalar _ (.ok (.number (.integer (.ofNat place)))) =>
      if byIndex then
        match known[place]? with
        | some name => .ok name
        | none =>
            .error (.invalidValue (.integer place) s!"variant index 0 <= i < {known.length}")
      else
        node.mismatch "variant identifier"
  | other => do
      let name ← other.text "variant identifier"
      if known.contains name then .ok name else .error (.unknownVariant name known)

/-- Nothing more than the bare name of a variant. -/
def unit (manner : Manner) (node : Node) : Except Fault Unit :=
  match manner, node with
  | _, .scalar _ (.ok .null) => .ok ()
  | .yaml, .scalar (some words) _ => .error (.invalidValue (.text words.text) "null")
  | .settled, .map [] => .ok ()
  | _, other => other.mismatch "unit"

/-- One of the known names, with nothing beside it. -/
def choice (manner : Manner) (known : List String) (node : Node) : Except Fault String :=
  match manner, node with
  | .json, .scalar (some _) _ => node.variant false known
  | .json, .map ((key, value) :: rest) => do
      let name ← key.variant false known
      value.unit .json
      if rest.isEmpty then .ok name else .error .unreadable
  | .json, _ => .error .unreadable
  | .yaml, .scalar (some words) _ =>
      if known.contains words.text then .ok words.text
      else .error (.unknownVariant words.text known)
  | .yaml, .tagged tag value =>
      if known.contains tag then (value.unit .yaml).map fun _ => tag
      else .error (.unknownVariant tag known)
  | .yaml, .list _ => .error (.invalidType .list "a YAML tag starting with '!'")
  | .yaml, .map _ => .error (.invalidType .map "a YAML tag starting with '!'")
  | _, .scalar (some _) _ => node.variant false known
  | _, .map [(key, value)] => do
      let name ← key.variant true known
      value.unit .settled
      .ok name
  | _, .map _ => .error (.invalidValue .map "map with a single key")
  | _, other => other.mismatch "string or map"

/-- What one of the known names stands for. -/
def oneOf {α : Type} (manner : Manner) (known : List String) (ofName? : String → Option α)
    (node : Node) : Except Fault α := do
  let name ← node.choice manner known
  match ofName? name with
  | some value => return value
  | none => .error (.unknownVariant name known)

end Node

end Rehearsal.Source

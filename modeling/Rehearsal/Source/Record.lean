import Rehearsal.Source.Node

/-!
Records: values with named fields, taken out of a map or, where the format allows it, out of a list.

A field is read on its own, and its fault is marked with the place where the text shows it.  When
the fields are put together the fault with the first place wins, so a record reports what a reader
who goes through the text from left to right would report.  Missing fields come behind everything
that is there, in the order in which the record declares its fields.
-/

namespace Rehearsal.Source

/-- A value, or a fault beside its place in the text. -/
abbrev Placed (α : Type) := Except (Nat × Fault) α

namespace Placed

variable {α β : Type}

/-- A reading that cannot fail. -/
def of (a : α) : Placed α := .ok a

/-- Applies one reading to another; of two faults the one with the earlier place remains. -/
def apply (left : Placed (α → β)) (right : Placed α) : Placed β :=
  match left, right with
  | .ok f, .ok a => .ok (f a)
  | .error fault, .ok _ => .error fault
  | .ok _, .error fault => .error fault
  | .error first, .error second => .error (if second.1 < first.1 then second else first)

/-- A further condition on a reading. -/
def given (reading : Placed α) (condition : Placed Unit) : Placed α :=
  apply (reading.map fun a (_ : Unit) => a) condition

def settle (reading : Placed α) : Except Fault α :=
  reading.mapError (·.2)

end Placed

/-- How much a format lets a record be written as the list of its fields. -/
inductive ListedRecords where
  | refused
  /-- The list must end with the last field. -/
  | exact
  /-- As `exact`, and the fault tells how many items there are. -/
  | counted
  deriving DecidableEq, Repr

/-- The fields of a record as a text shows them. -/
inductive Record where
  | keyed (title : String) (known : List String) (entries : List (Except Fault String × Node))
  | listed (title : String) (known : List String) (policy : ListedRecords) (items : List Node)

namespace Record

variable {α : Type}

/-- Takes a value as a record of the given title with the `known` fields. -/
def ofNode (policy : ListedRecords) (title : String) (known : List String) (node : Node) :
    Except Fault Record :=
  match node.bare, policy with
  | .list _, .refused => node.mismatch title
  | .list items, policy => .ok (.listed title known policy items)
  | other, _ => do
      let entries ← other.entries title
      .ok (.keyed title known (entries.map fun entry =>
        (entry.1.text "field identifier", entry.2)))

/-- The first entry under a name, beside its place. -/
def locate (name : String) (place : Nat) :
    List (Except Fault String × Node) → Option (Nat × Node)
  | [] => none
  | (.ok held, node) :: rest =>
      if held = name then some (place, node) else locate name (place + 1) rest
  | (.error _, _) :: rest => locate name (place + 1) rest

/-- Reads a field; `absent` says what its absence from a map, and from a list, amounts to. -/
def field (record : Record) (name : String) (read : Node → Except Fault α)
    (absent : Fault → Except Fault α) (short : Fault → Except Fault α) : Placed α :=
  match record with
  | .keyed _ known entries =>
      match locate name 0 entries with
      | some (place, node) => (read node).mapError ((place, ·))
      | none =>
          (absent (.missingField name)).mapError ((entries.length + known.idxOf name, ·))
  | .listed title known _ items =>
      let place := known.idxOf name
      match items[place]? with
      | some node => (read node).mapError ((place, ·))
      | none =>
          let shape := title ++ s!" with {known.length} element" ++
            (if known.length = 1 then "" else "s")
          (short (.invalidLength place shape)).mapError ((place, ·))

def required (record : Record) (name : String) (read : Node → Except Fault α) : Placed α :=
  record.field name read .error .error

/-- A field with a value of its own when the text leaves it out. -/
def defaulted (record : Record) (name : String) (default : α) (read : Node → Except Fault α) :
    Placed α :=
  record.field name read (fun _ => .ok default) (fun _ => .ok default)

/-- A field that a map may leave out or set to null. -/
def optional (record : Record) (name : String) (read : Node → Except Fault α) :
    Placed (Option α) :=
  record.field name (Node.optional read) (fun _ => .ok none) .error

/-- The first fault in the shape of a map: a name that is no text, a known name for the second time,
or a value under an unknown name that cannot be passed over. -/
def firstFlaw (known : List String) (place : Nat) (seen : List String) :
    List (Except Fault String × Node) → Placed Unit
  | [] => .ok ()
  | (.error fault, _) :: _ => .error (place, fault)
  | (.ok name, node) :: rest =>
      if known.contains name then
        if seen.contains name then .error (place, .duplicateField name)
        else firstFlaw known (place + 1) (name :: seen) rest
      else
        match node.skip with
        | .ok () => firstFlaw known (place + 1) seen rest
        | .error fault => .error (place, fault)

def countOf (n : Nat) : String :=
  if n = 1 then "1 element in sequence" else s!"{n} elements in sequence"

/-- The record holds nothing but what a record may hold. -/
def flawless : Record → Placed Unit
  | .keyed _ known entries => firstFlaw known 0 [] entries
  | .listed _ known policy items =>
      if items.length ≤ known.length then .ok ()
      else if policy = .counted then
        .error (known.length, .invalidLength items.length (countOf known.length))
      else .error (known.length, .unreadable)

end Record

end Rehearsal.Source

import Rehearsal.Association
import Rehearsal.Decimal.Layout

/-!
JSON values.

An object keeps its members in the order in which their names first came up.  A number is an
integer as long as it fits 64 bits, signed or unsigned, and a double otherwise.
-/

namespace Rehearsal

inductive Number where
  | integer (value : Int)
  | real (value : Binary64)
  deriving DecidableEq, Repr, Inhabited

inductive Json where
  | null
  | bool (value : Bool)
  | number (value : Number)
  | text (value : String)
  | list (items : List Json)
  | object (members : List (String × Json))
  deriving Repr, Inhabited, BEq

namespace Json

/-- An object with these members, where a repeated name keeps its first place and last value. -/
def ofMembers (members : List (String × Json)) : Json :=
  .object (Association.ofList members)

def ofNat (n : Nat) : Json :=
  .number (.integer n)

/-- A text, or null in its absence. -/
def ofText? : Option String → Json
  | some value => .text value
  | none => .null

def member? (name : String) : Json → Option Json
  | .object members => Association.get? name members
  | _ => none

def text? : Json → Option String
  | .text value => some value
  | _ => none

def isText (value : Json) : Bool :=
  value.text?.isSome

end Json

end Rehearsal

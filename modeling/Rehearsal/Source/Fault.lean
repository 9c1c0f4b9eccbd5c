import Rehearsal.Json.Value
import Rehearsal.Text.Quoted

/-!
What can be wrong with a text that is read as data, and how it is said.

A fault is a cause.  The words for it differ between formats only in how a missing value and a
double are named, and those are fields of `Wording`.
-/

namespace Rehearsal.Source

/-- What stood where something else was expected. -/
inductive Found where
  | null
  | bool (value : Bool)
  | integer (value : Int)
  /-- An integer of more than 64 bits. -/
  | wideInteger (value : Int)
  | real (value : Binary64)
  | text (value : String)
  | list
  | map
  | choice
  deriving DecidableEq, Repr, Inhabited

inductive Fault where
  /-- The text is not well formed, or asks for more than a reader grants. -/
  | unreadable
  | missingField (name : String)
  | duplicateField (name : String)
  | unknownVariant (name : String) (known : List String)
  | invalidType (found : Found) (expected : String)
  | invalidValue (found : Found) (expected : String)
  | invalidLength (length : Nat) (expected : String)
  deriving DecidableEq, Repr, Inhabited

/-- The words of a format for values that others name differently. -/
structure Wording where
  null : String
  real : Binary64 → String

def Found.describe (words : Wording) : Found → String
  | .null => words.null
  | .bool value => s!"boolean `{value}`"
  | .integer value => s!"integer `{value}`"
  | .wideInteger value => s!"integer `{value}` as " ++ (if value < 0 then "i128" else "u128")
  | .real value => s!"floating point `{words.real value}`"
  | .text value => "string " ++ Text.quoted value
  | .list => "sequence"
  | .map => "map"
  | .choice => "enum"

/-- The names that a choice knows: one of two with `or`, one of more in a list. -/
def oneOf : List String → String
  | [] => "there are no variants"
  | [name] => s!"expected `{name}`"
  | [first, second] => s!"expected `{first}` or `{second}`"
  | names => "expected one of " ++ ", ".intercalate (names.map fun name => s!"`{name}`")

def Fault.message (words : Wording) : Fault → String
  | .unreadable => "the text is not well formed"
  | .missingField name => s!"missing field `{name}`"
  | .duplicateField name => s!"duplicate field `{name}`"
  | .unknownVariant name known => s!"unknown variant `{name}`, {oneOf known}"
  | .invalidType found expected => s!"invalid type: {found.describe words}, expected {expected}"
  | .invalidValue found expected => s!"invalid value: {found.describe words}, expected {expected}"
  | .invalidLength length expected => s!"invalid length {length}, expected {expected}"

end Rehearsal.Source

import Rehearsal.Json.Printer

/-!
The fields of a form, in the order in which they were first filled in.
-/

namespace Rehearsal

structure FormData where
  fields : Association String
  deriving DecidableEq, Repr, Inhabited

namespace FormData

def empty : FormData := ⟨[]⟩

/-- Fills in a field; one that is there already keeps its place. -/
def insert (name value : String) (form : FormData) : FormData :=
  ⟨form.fields.insert name value⟩

def get? (name : String) (form : FormData) : Option String :=
  form.fields.get? name

/-- Fills in the fields from left to right. -/
def ofList (pairs : List (String × String)) : FormData :=
  pairs.foldl (fun form pair => form.insert pair.1 pair.2) empty

/-- The members of a JSON object: a text as it is, anything else as its compact text. -/
def ofMembers (members : List (String × Json)) : FormData :=
  ofList (members.map fun member => (member.1, member.2.shown))

def size (form : FormData) : Nat :=
  form.fields.length

def isEmpty (form : FormData) : Bool :=
  form.fields.isEmpty

/-- A field in a line of its own. -/
def line (field : String × String) : String :=
  "\t" ++ field.1 ++ ": " ++ field.2

/-- A line for each field. -/
def listing (form : FormData) : String :=
  "\n".intercalate (form.fields.map line)

end FormData

end Rehearsal

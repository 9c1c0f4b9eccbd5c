/-!
How far a reader looks into a value.

What a reader passes over has to be well formed but need not be made out.
-/

namespace Rehearsal.Source

inductive Scope where
  /-- The value is passed over. -/
  | passed
  | whole
  | list (items : Scope)
  /-- Of a map the named fields; the others are passed over. -/
  | record (fields : List (String × Scope))
  deriving Repr, Inhabited

namespace Scope

/-- How far the reader looks into the items of a list. -/
def ofItems : Scope → Scope
  | .list items => items
  | scope => scope

/-- How far the reader looks into what stands under a name. -/
def ofField (name : String) : Scope → Scope
  | .record fields => (fields.lookup name).getD .passed
  | scope => scope

end Scope

end Rehearsal.Source

/-!
Pairs kept in the order in which their names first came up.

A name that comes up again keeps its place and takes the new value.
-/

namespace Rehearsal

/-- Values under names, in order of first occurrence. -/
abbrev Association (α : Type) := List (String × α)

namespace Association

variable {α : Type}

/-- Puts `value` under `name`: in place if the name is there already, at the end if not. -/
def insert (name : String) (value : α) : Association α → Association α
  | [] => [(name, value)]
  | (held, old) :: rest =>
      if held = name then (held, value) :: rest else (held, old) :: insert name value rest

def get? (name : String) : Association α → Option α
  | [] => none
  | (held, value) :: rest => if held = name then some value else get? name rest

def contains (name : String) (pairs : Association α) : Bool :=
  (pairs.get? name).isSome

/-- Inserts the pairs from left to right. -/
def ofList (pairs : List (String × α)) : Association α :=
  pairs.foldl (fun held pair => held.insert pair.1 pair.2) []

def names (pairs : Association α) : List String :=
  pairs.map (·.1)

theorem get?_insert_self (name : String) (value : α) (pairs : Association α) :
    (pairs.insert name value).get? name = some value := by
  induction pairs with
  | nil => simp [insert, get?]
  | cons head rest inductionHypothesis =>
      obtain ⟨held, old⟩ := head
      by_cases same : held = name
      · simp [insert, get?, same]
      · simpa [insert, get?, same] using inductionHypothesis

theorem get?_insert_of_ne {name other : String} (different : name ≠ other) (value : α)
    (pairs : Association α) :
    (pairs.insert name value).get? other = pairs.get? other := by
  induction pairs with
  | nil => simp [insert, get?, different]
  | cons head rest inductionHypothesis =>
      obtain ⟨held, old⟩ := head
      by_cases same : held = name
      · subst same
        simp [insert, get?, different]
      · by_cases sought : held = other
        · subst sought
          simp [insert, get?, same]
        · simpa [insert, get?, same, sought] using inductionHypothesis

end Association

end Rehearsal

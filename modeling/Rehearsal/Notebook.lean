/-!
Values noted down during a run, ordered by the names under which they were noted.
-/

namespace Rehearsal

/-- Under each name the value that an attribute had, or nothing where it was missing. -/
structure Notebook where
  entries : List (String × Option String)
  deriving DecidableEq, Repr, Inhabited

namespace Notebook

def empty : Notebook := ⟨[]⟩

/-- Puts a value in its place; an earlier one under the same name is gone. -/
def place (name : String) (value : Option String) :
    List (String × Option String) → List (String × Option String)
  | [] => [(name, value)]
  | (held, old) :: rest =>
      if held = name then (name, value) :: rest
      else if name < held then (name, value) :: (held, old) :: rest
      else (held, old) :: place name value rest

def record (name : String) (value : Option String) (notebook : Notebook) : Notebook :=
  ⟨place name value notebook.entries⟩

def entry? (name : String) (notebook : Notebook) : Option (Option String) :=
  notebook.entries.lookup name

/-- The value under a name: nothing when none was noted, or when the attribute was missing. -/
def get? (name : String) (notebook : Notebook) : Option String :=
  (notebook.entry? name).join

def contains (name : String) (notebook : Notebook) : Bool :=
  (notebook.entry? name).isSome

def size (notebook : Notebook) : Nat :=
  notebook.entries.length

def isEmpty (notebook : Notebook) : Bool :=
  notebook.entries.isEmpty

end Notebook

end Rehearsal

import Rehearsal.Source.Manner

/-!
Values whose kind is told by a tag among their fields.

The tag may come anywhere, so everything beside it is settled and kept until the kind is known.
-/

namespace Rehearsal.Source.Node

/-- Settles the entries of a map as they come.  The one under the tag is read, and a second one is a
fault. -/
def sift {κ : Type} (levels : Nat) (tag expected : String) (read : Node → Except Fault κ)
    (own : Option κ) (kept : List (Node × Node)) :
    List (Node × Node) → Except Fault (Option κ × List (Node × Node))
  | [] => .ok (own, kept.reverse)
  | (key, value) :: rest => do
      let name ← key.text expected
      if name = tag then
        if own.isSome then .error (.duplicateField tag)
        else
          let own ← read value
          sift levels tag expected read (some own) kept rest
      else
        let value ← settle levels value
        sift levels tag expected read own ((ofAtom (.text name), value) :: kept) rest

/-- The kind of a value, and the settled rest of it.  In a list the tag comes first.  `levels` tells
how deep the parts of the value may be nested. -/
def tagAndRest (levels : Nat) (title tag : String) (known : List String) (byIndex : Bool)
    (node : Node) : Except Fault (String × Node) :=
  match node with
  | .list [] => .error (.missingField tag)
  | .list (first :: rest) => do
      let kind ← first.variant byIndex known
      let rest ← rest.mapM (settle levels)
      return (kind, .list rest)
  | .map entries => do
      match ← sift levels tag "a string" (variant byIndex known) none [] entries with
      | (some kind, rest) => return (kind, .map rest)
      | (none, _) => .error (.missingField tag)
  | other => other.mismatch title

end Rehearsal.Source.Node

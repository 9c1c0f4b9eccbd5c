import Rehearsal.Source.Manner
import Rehearsal.Source.Scope
import Rehearsal.Yaml.Layout
import Rehearsal.Yaml.Scalar
import Rehearsal.Yaml.Tree

/-!
YAML texts as trees.

Every alias that a reader looks at is replaced by the node it means.  A node may contain an alias
that means itself, and few aliases can mean very many nodes; so there is a limit to how deep aliases
are followed and to how often.  What lies beyond it says nothing.
-/

namespace Rehearsal.Yaml

open Source

namespace Tree

/-- The node that an alias means: the last one of its number. -/
def meaning (anchored : List Anchored) (number : Nat) : Tree :=
  let last := anchored.foldl (fun last node =>
    if node.number != number || last.any (node.place < ·.place) then last else some node) none
  last.elim .cut (·.tree)

mutual

/-- How many marks a tree is made of: scalars, aliases, and the two ends of each list and map. -/
def size : Tree → Nat
  | .list _ items => sizeOfItems items + 2
  | .map _ entries => sizeOfEntries entries + 2
  | _ => 1

def sizeOfItems : List Tree → Nat
  | [] => 0
  | tree :: rest => size tree + sizeOfItems rest

def sizeOfEntries : List (Tree × Tree) → Nat
  | [] => 0
  | (key, value) :: rest => size key + size value + sizeOfEntries rest

end

mutual

/-- The text goes on behind this tree. -/
def isWhole : Tree → Bool
  | .list _ items => itemsWhole items
  | .map _ entries => entriesWhole entries
  | .cut => false
  | _ => true

def itemsWhole : List Tree → Bool
  | [] => true
  | tree :: rest => isWhole tree && itemsWhole rest

def entriesWhole : List (Tree × Tree) → Bool
  | [] => true
  | (key, value) :: rest => isWhole key && isWhole value && entriesWhole rest

end

def tagged (tag : Option String) (node : Node) : Node :=
  (Scalar.ownTag? tag).elim node fun name => .tagged name node

/-- Beyond the limits nothing can be said. -/
def beyond : Node := .scalar none (.error .unreadable)

/-- What is passed over says nothing but whether the text goes on behind it. -/
def passed (tree : Tree) : Node :=
  if tree.isWhole then .scalar none (.ok .null) else .cut

/-- The words of a key, if it has any. -/
def keyName (key : Node) : String :=
  (key.text "").toOption.getD ""

/-- Replaces aliases as far as the reader looks; the state is how many more of them may be
followed. -/
def expand (meaning : Nat → Tree) : Scope → Nat → Tree → StateM Nat Node
  | .passed, _, tree => return tree.passed
  | _, _, .scalar tag isPlain text => return Scalar.node tag isPlain text
  | _, _, .cut => return .cut
  | _, 0, _ => return beyond
  | scope, levels + 1, .list tag items => do
      return tagged tag (.list (← items.mapM (expand meaning scope.ofItems levels)))
  | scope, levels + 1, .map tag entries => do
      let entries ← entries.mapM fun entry => do
        let key ← expand meaning .whole levels entry.1
        let value ← expand meaning (scope.ofField (keyName key)) levels entry.2
        return (key, value)
      return tagged tag (.map entries)
  | scope, levels + 1, .alias number => do
      match ← get with
      | 0 => return beyond
      | left + 1 =>
          set left
          expand meaning scope levels (meaning number)

end Tree

/-- How many times as many aliases as there are marks in a text may be followed. -/
def followLimit : Nat := 100

/-- The tree of the first document in a text as far as a reader looks, and whether the document is
the only one. -/
def read (scope : Scope) (text : String) : Node × Bool :=
  let chars := text.toList
  if chars.all isReadable then
    let (tree, anchored, ended) := Tree.ofTokens (Token.row chars)
    let expansion := Tree.expand (Tree.meaning anchored) scope (2 * Manner.yaml.levels + 2) tree
    let expanded := expansion.run (followLimit * tree.size)
    (expanded.1, ended)
  else (.cut, false)

/-- Takes a value out of a YAML text that holds one document; `scope` tells how far `take` looks
into it. -/
def decode {α : Type} (scope : Scope) (take : Node → Except Fault α) (text : String) :
    Except Fault α := do
  let (node, ended) := read scope text
  let value ← take node
  if ended then .ok value else .error .unreadable

end Rehearsal.Yaml

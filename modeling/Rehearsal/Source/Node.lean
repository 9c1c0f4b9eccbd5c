import Rehearsal.Source.Fault

/-!
What has been read of a text: a tree that may break off.

A reader goes through a text from left to right and stops at the first place where it is not well
formed.  The tree holds everything before that place and `cut` at it, so that whoever takes values
out of the tree in its order meets the faults of the values and of the text in the order in which
they stand.
-/

namespace Rehearsal.Source

/-- What a scalar says. -/
inductive Atom where
  | null
  | bool (value : Bool)
  | number (value : Number)
  | wideInteger (value : Int)
  | text (value : String)
  deriving DecidableEq, Repr, Inhabited

/-- The words of a scalar. -/
structure Words where
  text : String
  /-- Nothing is written in their place. -/
  leftOut : Bool := false
  deriving DecidableEq, Repr, Inhabited

inductive Node where
  /-- A scalar: the words that a reader of texts may take it by, and what it says. -/
  | scalar (words : Option Words) (value : Except Fault Atom)
  | list (items : List Node)
  | map (entries : List (Node × Node))
  /-- A value under a tag of the author's own. -/
  | tagged (tag : String) (node : Node)
  /-- Here the text stops being readable. -/
  | cut
  deriving Inhabited

def Atom.found : Atom → Found
  | .null => .null
  | .bool value => .bool value
  | .number (.integer value) => .integer value
  | .number (.real value) => .real value
  | .wideInteger value => .wideInteger value
  | .text value => .text value

namespace Node

def ofAtom : Atom → Node
  | .text value => .scalar (some { text := value }) (.ok (.text value))
  | value => .scalar none (.ok value)

mutual

/-- A JSON value as the tree of a text that is whole. -/
def ofJson : Json → Node
  | .null => ofAtom .null
  | .bool value => ofAtom (.bool value)
  | .number value => ofAtom (.number value)
  | .text value => ofAtom (.text value)
  | .list items => .list (ofItems items)
  | .object members => .map (ofMembers members)

def ofItems : List Json → List Node
  | [] => []
  | item :: rest => ofJson item :: ofItems rest

def ofMembers : List (String × Json) → List (Node × Node)
  | [] => []
  | (name, value) :: rest => (ofAtom (.text name), ofJson value) :: ofMembers rest

end

mutual

/-- The text goes on behind this value. -/
def isWhole : Node → Bool
  | .scalar .. => true
  | .list items => allWhole items
  | .map entries => entriesWhole entries
  | .tagged _ node => isWhole node
  | .cut => false

def allWhole : List Node → Bool
  | [] => true
  | item :: rest => isWhole item && allWhole rest

def entriesWhole : List (Node × Node) → Bool
  | [] => true
  | (key, value) :: rest => isWhole key && isWhole value && entriesWhole rest

end

/-- Passes over a value, whatever it says. -/
def skip (node : Node) : Except Fault Unit :=
  if node.isWhole then .ok () else .error .unreadable

/-- The value itself, below its tags. -/
def bare : Node → Node
  | .tagged _ node => bare node
  | node => node

/-- What stands here, for one who expected something else. -/
def found : Node → Except Fault Found
  | .scalar _ value => value.map Atom.found
  | .list _ => .ok .list
  | .map _ => .ok .map
  | .tagged _ node => found node
  | .cut => .error .unreadable

/-- Reports what stands here in place of what was `expected`. -/
def mismatch {α : Type} (node : Node) (expected : String) : Except Fault α := do
  .error (.invalidType (← node.found) expected)

def text (expected : String) (node : Node) : Except Fault String :=
  match node.bare with
  | .scalar (some words) _ => .ok words.text
  | other => other.mismatch expected

/-- A number from zero on, of at most 64 bits. -/
def natural (expected : String) (node : Node) : Except Fault Nat :=
  match node.bare with
  | .scalar _ (.ok (.number (.integer (.ofNat value)))) => .ok value
  | .scalar _ (.ok (.number (.integer value))) =>
      .error (.invalidValue (.integer value) expected)
  | other => other.mismatch expected

/-- A scalar that is left out stands for a list or map without anything in it. -/
def isVoid : Node → Bool
  | .scalar (some words) _ => words.leftOut
  | _ => false

def items (expected : String) (node : Node) : Except Fault (List Node) :=
  match node.bare with
  | .list items => .ok items
  | other => if other.isVoid then .ok [] else other.mismatch expected

def entries (expected : String) (node : Node) : Except Fault (List (Node × Node)) :=
  match node.bare with
  | .map entries => .ok entries
  | other => if other.isVoid then .ok [] else other.mismatch expected

/-- A list, each of its items read in turn. -/
def listOf {α : Type} (read : Node → Except Fault α) (node : Node) : Except Fault (List α) := do
  (← node.items "a sequence").mapM read

/-- A value, or nothing where the text says null. -/
def optional {α : Type} (read : Node → Except Fault α) (node : Node) : Except Fault (Option α) :=
  match node.bare with
  | .scalar _ (.ok .null) => .ok none
  | other => (read other).map some

end Node

end Rehearsal.Source

import Rehearsal.Pattern.Regex
import Rehearsal.Pattern.Utf8

/-!
Expressions in the simplest form that matches the same texts in the same order.

Rows of rows are one row, and so are choices of choices.  A choice between single characters, or
between sets of them, is one set; what all the branches of a choice begin with comes before it.
What matches the empty text alone is not repeated more than once.
-/

namespace Rehearsal.Pattern

open Unicode

inductive Shape where
  | empty
  | literal (text : List Char)
  /-- One character out of a set, which has more than one or none. -/
  | chars (set : CharSet) (sequences : List (List Utf8.ByteRange))
  | look (condition : Look)
  | row (parts : List Shape)
  | choice (branches : List Shape)
  | repeated (least : Nat) (most : Option Nat) (short : Bool) (body : Shape)
  | capture (body : Shape)
  deriving Repr, Inhabited

namespace Shape

/-! ### Lengths -/

mutual

/-- How many bytes the shape takes at least; none if it never matches or a part of it never does. -/
def least? : Shape → Option Nat
  | .empty | .look _ => some 0
  | .literal text => some (text.foldl (fun n c => n + c.utf8Size) 0)
  | .chars set _ => set.ranges.head?.map fun range => (Utf8.bytes range.1).length
  | .row parts => leastOfRow? parts
  | .choice branches => leastOfChoice? branches
  | .repeated least _ _ body => body.least?.map (least * ·)
  | .capture body => body.least?

def leastOfRow? : List Shape → Option Nat
  | [] => some 0
  | part :: rest => do return (← part.least?) + (← leastOfRow? rest)

def leastOfChoice? : List Shape → Option Nat
  | [] => none
  | [branch] => branch.least?
  | branch :: rest => do return min (← branch.least?) (← leastOfChoice? rest)

end

mutual

/-- The shape matches nothing but the empty text. -/
def takesNothing : Shape → Bool
  | .empty | .look _ => true
  | .literal _ | .chars .. => false
  | .row parts => allTakeNothing parts
  | .choice branches => allTakeNothing branches
  | .repeated _ _ _ body => body.takesNothing
  | .capture body => body.takesNothing

def allTakeNothing : List Shape → Bool
  | [] => true
  | shape :: rest => shape.takesNothing && allTakeNothing rest

end

mutual

/-- The shape can begin only where the condition holds. -/
def leadsWith (condition : Look) : Shape → Bool
  | .look held => held == condition
  | .row parts => rowLeadsWith condition parts
  | .choice branches => allLeadWith condition branches
  | .repeated least _ _ body => 0 < least && body.leadsWith condition
  | .capture body => body.leadsWith condition
  | _ => false

/-- One of the parts leads with the condition, and those before it take nothing. -/
def rowLeadsWith (condition : Look) : List Shape → Bool
  | [] => false
  | part :: rest =>
      part.leadsWith condition || (part.takesNothing && rowLeadsWith condition rest)

def allLeadWith (condition : Look) : List Shape → Bool
  | [] => true
  | branch :: rest => branch.leadsWith condition && allLeadWith condition rest

end

mutual

/-- The shape can end only where the condition holds. -/
def endsWith (condition : Look) : Shape → Bool
  | .look held => held == condition
  | .row parts => rowEndsWith condition parts
  | .choice branches => allEndWith condition branches
  | .repeated least _ _ body => 0 < least && body.endsWith condition
  | .capture body => body.endsWith condition
  | _ => false

/-- One of the parts ends with the condition, and those behind it take nothing. -/
def rowEndsWith (condition : Look) : List Shape → Bool
  | [] => false
  | part :: rest =>
      rowEndsWith condition rest || (allTakeNothing rest && part.endsWith condition)

def allEndWith (condition : Look) : List Shape → Bool
  | [] => true
  | branch :: rest => branch.endsWith condition && allEndWith condition rest

end

/-! ### Simplest forms -/

def never : Shape := .chars CharSet.empty []

/-- One character out of a set; halves of pairs are no characters. -/
def ofSet (set : CharSet) : Shape :=
  let set := set.diff (CharSet.parse "D800-DFFF")
  match set.ranges with
  | [(first, last)] =>
      if first == last then .literal [Char.ofNat first] else .chars set (Utf8.sequences set)
  | _ => .chars set (Utf8.sequences set)

/-- Joins literals that stand beside each other. -/
def joinLiterals : List Shape → List Shape
  | [] => []
  | shape :: rest =>
      match shape, joinLiterals rest with
      | .literal left, .literal right :: others => .literal (left ++ right) :: others
      | shape, others => shape :: others

def inRow (parts : List Shape) : Shape :=
  let flat := parts.flatMap fun
    | .empty => []
    | .row inner => inner
    | part => [part]
  match joinLiterals flat with
  | [] => .empty
  | [part] => part
  | parts => .row parts

mutual

/-- Both shapes are the same.  No capture is the same as another one. -/
def same : Shape → Shape → Bool
  | .empty, .empty => true
  | .literal left, .literal right => left == right
  | .chars left _, .chars right _ => left = right
  | .look left, .look right => left == right
  | .row left, .row right => allSame left right
  | .choice left, .choice right => allSame left right
  | .repeated least most short body, .repeated least' most' short' body' =>
      least == least' && most == most' && short == short' && same body body'
  | _, _ => false

def allSame : List Shape → List Shape → Bool
  | [], [] => true
  | left :: lefts, right :: rights => same left right && allSame lefts rights
  | _, _ => false

end

/-- How many parts two rows have in common at their beginnings. -/
def commonLength : List Shape → List Shape → Nat
  | left :: lefts, right :: rights =>
      if same left right then commonLength lefts rights + 1 else 0
  | _, _ => 0

/-- The parts of each branch, if all of them are rows. -/
def rows? (branches : List Shape) : Option (List (List Shape)) :=
  branches.mapM fun
    | Shape.row parts => some parts
    | _ => none

/-- What all the branches begin with, and what is left of each. -/
def lead? (branches : List Shape) : Option (List Shape × List (List Shape)) := do
  let rows ← rows? branches
  let first ← rows.head?
  let length := (rows.drop 1).foldl (fun n row => min n (commonLength first row)) first.length
  if length == 0 then none
  else return (first.take length, rows.map (·.drop length))

/-- The characters, if every branch is a single one. -/
def singles? (branches : List Shape) : Option CharSet :=
  (branches.mapM fun
    | Shape.literal [c] => some (c.toNat, c.toNat)
    | _ => none).map CharSet.ofRanges

/-- The characters, if every branch is a set of them. -/
def sets? (branches : List Shape) : Option CharSet :=
  (branches.mapM fun
    | Shape.chars set _ => some set
    | _ => none).map CharSet.unions

/-- One of the branches.  `fuel` bounds how often they can have a beginning in common. -/
def oneOf : Nat → List Shape → Shape
  | 0, branches => .choice branches
  | fuel + 1, branches =>
      let flat := branches.flatMap fun
        | .choice inner => inner
        | branch => [branch]
      match flat with
      | [] => never
      | [branch] => branch
      | branches =>
          match (singles? branches).or (sets? branches) with
          | some set => ofSet set
          | none =>
              match lead? branches with
              | some (lead, rests) => inRow (lead ++ [oneOf fuel (rests.map inRow)])
              | none => .choice branches

def times (least : Nat) (most : Option Nat) (short : Bool) (body : Shape) : Shape :=
  let (least, most) :=
    if body.takesNothing then (min least 1, some (most.elim 1 (min · 1))) else (least, most)
  if most = some 0 then .empty
  else if least = 1 && most = some 1 then body
  else .repeated least most short body

mutual

/-- How many parts and branches a shape has. -/
def size : Shape → Nat
  | .row parts => sizeOfAll parts + 1
  | .choice branches => sizeOfAll branches + 1
  | .repeated _ _ _ body => body.size + 1
  | .capture body => body.size + 1
  | _ => 1

def sizeOfAll : List Shape → Nat
  | [] => 0
  | shape :: rest => shape.size + sizeOfAll rest

end

mutual

/-- The simplest form of an expression. -/
def ofRegex : Regex CharSet Look → Shape
  | .chars set => ofSet set
  | .look condition => .look condition
  | .seq parts => inRow (ofRegexes parts)
  | .alt branches =>
      let shapes := ofRegexes branches
      oneOf (sizeOfAll shapes + 1) shapes
  | .repeated least most short body => times least most short (ofRegex body)
  | .capture body => .capture (ofRegex body)

def ofRegexes : List (Regex CharSet Look) → List Shape
  | [] => []
  | regex :: rest => ofRegex regex :: ofRegexes rest

end

end Shape

end Rehearsal.Pattern

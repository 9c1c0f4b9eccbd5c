import Rehearsal.Yaml.Place

/-!
Scalars written as blocks of indented lines.

In a literal block every line break stands for itself.  In a folded one a single line break between
two lines that begin without a blank stands for a space.
-/

namespace Rehearsal.Yaml.Block

/-- What becomes of the line breaks at the end. -/
inductive Chomping where
  /-- One is kept. -/
  | clip
  | strip
  | keep
  deriving DecidableEq, Repr

def chomping? (place : Place) : Option (Chomping × Place) :=
  if place.nextIs '+' then some (.keep, place.skip 1)
  else if place.nextIs '-' then some (.strip, place.skip 1)
  else none

/-- The digit that says how far a block is indented: none if there is none, which is a fault only
when it is zero. -/
def increment? (place : Place) : Option (Option Nat × Place) :=
  match place.next? with
  | some c =>
      if c == '0' then none
      else if c.isDigit then some (some (c.toNat - '0'.toNat), place.skip 1)
      else some (none, place)
  | none => some (none, place)

/-- Chomping and indentation, in either order, and the rest of the line. -/
def header? (place : Place) : Option (Chomping × Option Nat × Place) := do
  match chomping? place with
  | some (chomping, place) =>
      let (increment, place) ← increment? place
      some (chomping, increment, ← place.endLine?)
  | none =>
      let (increment, place) ← increment? place
      let (chomping, place) := (chomping? place).getD (.clip, place)
      some (chomping, increment, ← place.endLine?)

/-- Passes over empty lines and over the indentation of the line behind them; also tells the
greatest column at which one of these lines ends.  As long as the indentation is not known, all
spaces belong to it, and no tab may stand within it. -/
def emptyLines (indent : Option Nat) :
    Nat → List Char → Nat → Place → Option (List Char × Nat × Place)
  | 0, _, _, _ => none
  | fuel + 1, breaks, widest, place =>
      let spaces := (place.rest.takeWhile (· == ' ')).length
      let place := place.skip (match indent with
        | none => spaces
        | some column => min spaces (column - place.column))
      let widest := max widest place.column
      if place.nextIs '\t' && indent.all (place.column < ·) then none
      else
        match place.lineBreak? with
        | some (mark, place) => emptyLines indent fuel (breaks ++ [mark]) widest place
        | none => some (breaks, widest, place)

/-- What has been read of a block. -/
structure Content where
  /-- The lines and what joins them, the latest first. -/
  pieces : List (List Char)
  /-- The line break behind the last line. -/
  last : Option Char
  /-- The line breaks of empty lines after that. -/
  others : List Char
  /-- The last line begins with a blank. -/
  blank : Bool

namespace Content

/-- Adds the line in front, which begins with a blank or not. -/
def addLine (folded : Bool) (content : Content) (blank : Bool) (line : List Char)
    (last : Option Char) (others : List Char) : Content :=
  let joint :=
    if folded && content.last == some '\n' && !content.blank && !blank then
      if content.others.isEmpty then [' '] else []
    else content.last.toList
  { pieces := line :: content.others :: joint :: content.pieces, last, others, blank }

def chars (content : Content) : List Char :=
  content.pieces.reverse.flatten

def chomped (chomping : Chomping) (content : Content) : List Char :=
  match chomping with
  | .strip => content.chars
  | .clip => content.chars ++ content.last.toList
  | .keep => content.chars ++ content.last.toList ++ content.others

end Content

/-- Reads lines as long as they are indented by `indent`. -/
def lines (folded : Bool) (indent : Nat) : Nat → Content → Place → Option (Content × Place)
  | 0, _, _ => none
  | fuel + 1, content, place => do
      if place.column != indent || place.rest.isEmpty then some (content, place)
      else
        let blank := place.next?.any isBlank
        let (line, place) := place.span fun c => !isBreak c
        let (last, place) :=
          match place.lineBreak? with
          | some (mark, place) => (some mark, place)
          | none => (none, place)
        let (others, _, place) ← emptyLines (some indent) (fuel + 1) [] 0 place
        lines folded indent fuel (content.addLine folded blank line last others) place

/-- Reads a block in front, behind its indicator.  `outer` is the column to which the indentation is
counted from. -/
def read (folded : Bool) (outer : Int) (place : Place) : Option (String × Place) := do
  let fuel := place.left + 2
  let (chomping, increment, place) ← header? place
  let given := increment.map fun n => outer.toNat + n
  let (others, widest, place) ← emptyLines given fuel [] 0 place
  let indent := given.getD (max widest (max (outer + 1).toNat 1))
  let (content, place) ← lines folded indent fuel
    { pieces := [], last := none, others, blank := false } place
  some (String.ofList (content.chomped chomping), place)

end Rehearsal.Yaml.Block

import Rehearsal.Pattern.Room
import Rehearsal.Pattern.Shape

/-!
How much room an expression takes when it is laid out state by state.

Counted repetitions are written out, so a short pattern can ask for a lot of room.  Each expression
is laid out twice, once as it is read forwards and once backwards, and there must be room for
either.
-/

namespace Rehearsal.Pattern

open Unicode

inductive Direction where
  | forwards
  | backwards
  deriving DecidableEq, Repr

namespace Shape

/-! ### Words -/

/-- The bytes of a text as they are met. -/
def bytes (direction : Direction) (text : List Char) : List Nat :=
  let bytes := text.flatMap fun c => Utf8.bytes c.toNat
  match direction with
  | .forwards => bytes
  | .backwards => bytes.reverse

/-- Divides words at those that are at their end here; several of these in front count once. -/
def divide (words : List (List Nat)) : List (List (List Nat)) :=
  let words :=
    match words with
    | [] :: rest => [] :: rest.dropWhile List.isEmpty
    | words => words
  words.foldr (fun word groups =>
    match word, groups with
    | [], groups => [] :: groups
    | word, [] => [[word]]
    | word, group :: groups => (word :: group) :: groups) [[]]

/-- The rests of words that begin with the same byte, byte by byte. -/
def byFirst (words : List (List Nat)) : List (List (List Nat)) :=
  let firsts := (words.filterMap List.head?).eraseDups
  firsts.map fun first => (words.filter fun word => word.head? == some first).map (·.drop 1)

/-- Lays out words that have their beginnings in common.  `fuel` is more than the length of the
longest. -/
def layWords : Nat → List (List Nat) → Room → Option Room
  | 0, _, room => some room
  | fuel + 1, words, room => do
      let groups := divide words
      let branches := groups.map byFirst
      let room ← branches.flatten.foldlM (fun room rests =>
        if rests.all List.isEmpty then some room else layWords fuel rests room) room
      let room ← branches.foldlM (fun room rests =>
        match rests.length with
        | 0 => some room
        | 1 => room.add 1 Room.perWay
        | count => room.add 1 (Room.perRange * count + Room.perWay)) room
      room.add 1 (Room.perWay * (groups.length - 1))

/-- The texts of branches, if all of them are literals. -/
def words? (direction : Direction) (branches : List Shape) : Option (List (List Nat)) :=
  branches.mapM fun
    | .literal text => some (bytes direction text)
    | _ => none

/-! ### Shapes -/

/-- Lays out a set of characters.  Characters of one byte each take one state together. -/
def laySet (direction : Direction) (sequences : List (List Utf8.ByteRange)) (room : Room) :
    Option Room :=
  if sequences.all fun ranges => ranges.length == 1 then
    room.add 2 (Room.perRange * sequences.length)
  else
    match direction with
    | .forwards => room.addForwards sequences
    | .backwards => room.addBackwards sequences

/-- Lays out a repetition around what lays out its body.  A body that may take nothing needs a state
more if it may be left out any number of times. -/
def layTimes (least : Nat) (most : Option Nat) (takesText : Bool) (body : Room → Option Room)
    (room : Room) : Option Room :=
  let fork := 2 * Room.perWay
  match least, most with
  | 0, some 1 => do (← body (← room.add 1 fork)).add 1 0
  | 0, none =>
      if takesText then do body (← room.add 1 fork)
      else do (← body room).add 3 (2 * fork)
  | least, none => do (← Room.repeatedly body least room).add 1 fork
  | least, some most =>
      if least = most then Room.repeatedly body least room
      else do
        let room ← if least = 0 then room.add 1 0 else Room.repeatedly body least room
        Room.repeatedly (fun room => do body (← room.add 1 fork)) (most - least)
          (← room.add 1 0)

mutual

/-- Lays out a shape behind what has been laid out already.  Captures are laid out forwards only. -/
def lay (direction : Direction) : Shape → Room → Option Room
  | .empty, room | .look _, room => room.add 1 0
  | .literal text, room => room.add (bytes direction text).length 0
  | .chars _ sequences, room => laySet direction sequences room
  | .row parts, room => layRow direction parts room
  | .choice branches, room =>
      match words? direction branches with
      | some words => do
          layWords ((words.map List.length).foldl max 0 + 1) words (← room.add 1 0)
      | none => layChoice direction branches.length 0 branches room
  | .repeated least most _ body, room =>
      layTimes least most (body.least?.any (0 < ·)) (fun room => lay direction body room) room
  | .capture body, room =>
      match direction with
      | .forwards => do (← lay direction body (← room.add 1 0)).add 1 0
      | .backwards => lay direction body room

/-- Lays out the parts of a row in the order in which they are met. -/
def layRow (direction : Direction) : List Shape → Room → Option Room
  | [], room => some room
  | part :: rest, room =>
      match direction with
      | .forwards => do layRow direction rest (← lay direction part room)
      | .backwards => do lay direction part (← layRow direction rest room)

/-- Lays out branches; the states in which they part and meet again come behind the second of
them. -/
def layChoice (direction : Direction) (ways : Nat) : Nat → List Shape → Room → Option Room
  | _, [], room => some room
  | place, branch :: rest, room => do
      let room ← lay direction branch room
      let room ← if place = 1 then room.add 2 (Room.perWay * ways) else some room
      layChoice direction ways (place + 1) rest room

end

/-- Lays out everything that is needed to find a shape in a text.  Where it need not begin at an end
of the text, any bytes may come before it. -/
def layWhole (direction : Direction) (shape : Shape) : Option Room := do
  let anchored :=
    match direction with
    | .forwards => shape.leadsWith .textStart
    | .backwards => shape.endsWith .textEnd
  let room : Room := {}
  let room ← if anchored then room.add 1 0 else room.add 3 (2 * Room.perWay + Room.perRange)
  (← lay direction (.capture shape) room).add 1 0

/-- There is room for the shape. -/
def fits (shape : Shape) : Bool :=
  (shape.layWhole .forwards).isSome && (shape.layWhole .backwards).isSome

end Shape

end Rehearsal.Pattern

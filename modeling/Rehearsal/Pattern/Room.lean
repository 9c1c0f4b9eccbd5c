import Rehearsal.Pattern.Utf8
import Std.Data.HashMap

/-!
The room that states take, and how a set of characters is laid out in states.

A state goes on by ranges of bytes, each to one other state.  States that go on in the same way are
laid out once, as far as a table remembers them: each has one slot in it, and a later state takes
the place of an earlier one in the same slot.
-/

namespace Rehearsal.Pattern

open Utf8

/-- The states that have been laid out, and the room that they take in bytes. -/
structure Room where
  states : Nat := 0
  taken : Nat := 0
  deriving Repr, Inhabited

namespace Room

/-- The greatest room that a pattern may take. -/
def limit : Nat := 10485760

def perState : Nat := 32

/-- What a range of bytes takes in a state that has several. -/
def perRange : Nat := 8

/-- What a way takes in a state that goes on in several ways without a byte. -/
def perWay : Nat := 4

/-- Lays out more states, if there is room for them and for `extra` bytes. -/
def add (room : Room) (states extra : Nat) : Option Room :=
  let taken := room.taken + perState * states + extra
  if taken ≤ limit then some { states := room.states + states, taken } else none

/-- Lays something out a given number of times. -/
def repeatedly (lay : Room → Option Room) : Nat → Room → Option Room
  | 0, room => some room
  | count + 1, room =>
      match lay room with
      | some room => repeatedly lay count room
      | none => none

/-! ### Slots -/

/-- Marks a list of numbers by a number of 64 bits. -/
def mark (numbers : List Nat) : UInt64 :=
  numbers.foldl (fun h n => (h ^^^ n.toUInt64) * 1099511628211) 14695981039346656037

/-- A table of states under what they go on by; each has one of `size` slots. -/
structure Table (κ : Type) where
  slots : Std.HashMap UInt64 (κ × Nat)
  size : UInt64

namespace Table

variable {κ : Type}

def empty (size : UInt64) : Table κ :=
  { slots := {}, size }

def get? [BEq κ] (table : Table κ) (key : κ) (numbers : List Nat) : Option Nat :=
  match table.slots[mark numbers % table.size]? with
  | some (held, state) => if held == key then some state else none
  | none => none

def put (table : Table κ) (key : κ) (numbers : List Nat) (state : Nat) : Table κ :=
  { table with slots := table.slots.insert (mark numbers % table.size) (key, state) }

end Table

/-! ### Sets of characters, read forwards -/

/-- The state to which a range of bytes leads. -/
structure Way where
  range : ByteRange
  next : Nat
  deriving DecidableEq, Repr

def Way.numbers (way : Way) : List Nat :=
  [way.range.low, way.range.high, way.next]

/-- A state that is not laid out yet: its ways, the latest first, and a range whose way is open. -/
structure Pending where
  ways : List Way
  last : Option ByteRange

def Pending.close (pending : Pending) (next : Nat) : Pending :=
  { ways := (pending.last.map fun range => (⟨range, next⟩ : Way)).toList ++ pending.ways
    last := none }

/-- Sequences on their way into states. -/
structure Weaving where
  room : Room
  table : Table (List Way)
  /-- The states along the latest sequence, from its end. -/
  pending : List Pending

namespace Weaving

/-- Lays out a state, unless the table knows it already. -/
def lay (weaving : Weaving) (pending : Pending) : Option (Nat × Weaving) :=
  let ways := pending.ways.reverse
  let numbers := ways.flatMap Way.numbers
  match weaving.table.get? ways numbers with
  | some state => some (state, weaving)
  | none => do
      let state := weaving.room.states
      let room ← weaving.room.add 1 (perRange * ways.length)
      some (state, { weaving with room, table := weaving.table.put ways numbers state })

/-- Lays out the last `count` states along the latest sequence, the last of which leads to `next`,
and closes the way of the one before them. -/
def closeLast : Nat → Nat → Weaving → Option Weaving
  | 0, next, weaving =>
      some { weaving with
        pending :=
          match weaving.pending with
          | [] => []
          | state :: rest => state.close next :: rest }
  | count + 1, next, weaving =>
      match weaving.pending with
      | [] => some weaving
      | state :: rest => do
          let (next, weaving) ← { weaving with pending := rest }.lay (state.close next)
          closeLast count next weaving

/-- How far a sequence runs along the one before it. -/
def commonLength : List ByteRange → List Pending → Nat
  | range :: ranges, state :: states =>
      if state.last = some range then commonLength ranges states + 1 else 0
  | _, _ => 0

/-- Opens ways along the rest of a sequence. -/
def extend (ranges : List ByteRange) (pending : List Pending) : List Pending :=
  match ranges, pending with
  | range :: ranges, state :: states =>
      ranges.foldl (fun pending range => { ways := [], last := some range } :: pending)
        ({ state with last := some range } :: states)
  | _, pending => pending

/-- Adds a sequence; all of them lead to the state `target`. -/
def add (target : Nat) (weaving : Weaving) (ranges : List ByteRange) : Option Weaving := do
  let common := commonLength ranges weaving.pending.reverse
  let weaving ← closeLast (weaving.pending.length - (common + 1)) target weaving
  some { weaving with pending := extend (ranges.drop common) weaving.pending }

end Weaving

/-- Lays out the sequences of a set so that those that end alike share their ends. -/
def addForwards (sequences : List (List ByteRange)) (room : Room) : Option Room := do
  let target := room.states
  let weaving : Weaving :=
    { room := ← room.add 1 0, table := .empty 10000, pending := [⟨[], none⟩] }
  let weaving ← sequences.foldlM (Weaving.add target) weaving
  let weaving ← weaving.closeLast (weaving.pending.length - 1) target
  match weaving.pending with
  | [] => some weaving.room
  | root :: _ => (weaving.lay root).map (·.2.room)

/-! ### Sets of characters, read backwards -/

/-- A state with one way, and the state to which that leads. -/
structure Backwards where
  room : Room
  table : Table Way

/-- Lays out a sequence from its end, and returns the state that its first range leads from. -/
def Backwards.add (state : Nat) (ranges : List ByteRange) (laid : Backwards) : Option Backwards :=
  match ranges with
  | [] => some laid
  | range :: ranges =>
      let way : Way := ⟨range, state⟩
      let numbers := [state, range.low, range.high]
      match laid.table.get? way numbers with
      | some state => add state ranges laid
      | none => do
          let room ← laid.room.add 1 0
          add laid.room.states ranges
            { room, table := laid.table.put way numbers laid.room.states }

/-- Lays out the sequences of a set one beside the other; those that begin alike share their
beginnings, which are read last. -/
def addBackwards (sequences : List (List ByteRange)) (room : Room) : Option Room := do
  let target := room.states + 1
  let laid : Backwards :=
    { room := ← room.add 2 (perWay * sequences.length), table := .empty 1000 }
  (sequences.foldlM (fun laid ranges => Backwards.add target ranges laid) laid).map (·.room)

end Room

end Rehearsal.Pattern

/-!
Sets of characters as ranges of code points.

A set in normal form lists its ranges in ascending order, with a gap between any two.  `ofRanges`
brings any list of ranges into that form; the other operations keep it.
-/

namespace Rehearsal.Unicode

/-- Inclusive ranges of code points. -/
structure CharSet where
  ranges : List (Nat × Nat)
  deriving DecidableEq, Repr, Inhabited

namespace CharSet

def empty : CharSet := ⟨[]⟩

/-- The greatest code point. -/
def greatest : Nat := 0x10ffff

def full : CharSet := ⟨[(0, greatest)]⟩

def holds (set : CharSet) (n : Nat) : Bool :=
  set.ranges.any fun range => range.1 ≤ n && n ≤ range.2

def contains (set : CharSet) (c : Char) : Bool :=
  set.holds c.toNat

/-- Joins ascending ranges that touch or overlap; `low` to `high` is the range in hand. -/
def join (low high : Nat) : List (Nat × Nat) → List (Nat × Nat)
  | [] => [(low, high)]
  | (first, last) :: rest =>
      if first ≤ high + 1 then join low (max high last) rest
      else (low, high) :: join first last rest

def ofRanges (ranges : List (Nat × Nat)) : CharSet :=
  match (ranges.filter fun range => range.1 ≤ range.2).mergeSort fun a b => a.1 ≤ b.1 with
  | [] => empty
  | (first, last) :: rest => ⟨join first last rest⟩

def single (c : Char) : CharSet :=
  ⟨[(c.toNat, c.toNat)]⟩

def range (first last : Char) : CharSet :=
  ofRanges [(first.toNat, last.toNat)]

def union (a b : CharSet) : CharSet :=
  ofRanges (a.ranges ++ b.ranges)

def unions (sets : List CharSet) : CharSet :=
  ofRanges (sets.flatMap (·.ranges))

/-- The gaps from `start` on. -/
def gaps (start : Nat) : List (Nat × Nat) → List (Nat × Nat)
  | [] => if start ≤ greatest then [(start, greatest)] else []
  | (first, last) :: rest =>
      if start < first then (start, first - 1) :: gaps (last + 1) rest else gaps (last + 1) rest

/-- Every code point outside the set. -/
def complement (set : CharSet) : CharSet :=
  ⟨gaps 0 set.ranges⟩

def inter (a b : CharSet) : CharSet :=
  (a.complement.union b.complement).complement

def diff (a b : CharSet) : CharSet :=
  a.inter b.complement

def symmDiff (a b : CharSet) : CharSet :=
  (a.union b).diff (a.inter b)

/-- The value of a hexadecimal digit in upper case. -/
def digitValue (c : Char) : Nat :=
  if c.isDigit then c.toNat - 48 else c.toNat - 55

/-- Reads ranges from the front: `41-5A 5F` is two of them.  `first` is the start of the range in
hand once its hyphen has come up, and `n` the number in hand. -/
def readRanges (first : Option Nat) (n : Nat) : List Char → List (Nat × Nat)
  | [] => [(first.getD n, n)]
  | '-' :: rest => readRanges (some n) 0 rest
  | ' ' :: rest => (first.getD n, n) :: readRanges none 0 rest
  | c :: rest => readRanges first (16 * n + digitValue c) rest

/-- A set from the text of its ranges in ascending order, the empty text for the empty set. -/
def parse (text : String) : CharSet :=
  if text.isEmpty then empty else ⟨readRanges none 0 text.toList⟩

/-- A set from lines of ranges. -/
def ofLines (lines : List String) : CharSet :=
  ⟨lines.flatMap fun line => (parse line).ranges⟩

end CharSet

end Rehearsal.Unicode

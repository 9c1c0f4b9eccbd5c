import Rehearsal.Unicode.CharSet

/-!
The bytes of characters.

The characters of a set are taken as sequences of ranges of bytes: a sequence stands for every
choice of one byte out of each of its ranges.
-/

namespace Rehearsal.Pattern.Utf8

open Unicode

/-- Bytes from `low` to `high`. -/
structure ByteRange where
  low : Nat
  high : Nat
  deriving DecidableEq, Repr, Inhabited

/-- The bytes of a code point. -/
def bytes (n : Nat) : List Nat :=
  if n < 0x80 then [n]
  else if n < 0x800 then [0xc0 + n / 64, 0x80 + n % 64]
  else if n < 0x10000 then [0xe0 + n / 4096, 0x80 + n / 64 % 64, 0x80 + n % 64]
  else [0xf0 + n / 262144, 0x80 + n / 4096 % 64, 0x80 + n / 64 % 64, 0x80 + n % 64]

/-- The first place at which a range has to be cut so that both parts are ranges of bytes place by
place: the last code point of the left part. -/
def cut? (first last : Nat) : Option Nat :=
  if first < 0xd800 && 0xd7ff < last then some 0xd7ff
  else
    match [0x7f, 0x7ff, 0xffff].find? fun greatest => first ≤ greatest && greatest < last with
    | some greatest => some greatest
    | none =>
        if last < 0x80 then none
        else
          [64, 4096, 262144].findSome? fun unit =>
            if first / unit == last / unit then none
            else if first % unit != 0 then some (first / unit * unit + unit - 1)
            else if last % unit != unit - 1 then some (last / unit * unit - 1)
            else none

/-- A range of code points as sequences. -/
def ofRange : Nat → Nat × Nat → List (List ByteRange)
  | 0, _ => []
  | fuel + 1, (first, last) =>
      if last < first then []
      else if 0xd800 ≤ first && first ≤ 0xdfff then ofRange fuel (0xe000, last)
      else
        match cut? first last with
        | some middle => ofRange fuel (first, middle) ++ ofRange fuel (middle + 1, last)
        | none => [(bytes first).zipWith ByteRange.mk (bytes last)]

/-- The characters of a set as sequences, in ascending order. -/
def sequences (set : CharSet) : List (List ByteRange) :=
  set.ranges.flatMap (ofRange 64)

end Rehearsal.Pattern.Utf8

/-!
Signs, hexadecimal digits, and characters that are given by their code points.
-/

namespace Rehearsal.Text

/-- A sign in front of a number: whether it is a minus, and what comes behind it. -/
def sign : List Char → Bool × List Char
  | '-' :: rest => (true, rest)
  | '+' :: rest => (false, rest)
  | chars => (false, chars)

def hexValue? (c : Char) : Option Nat :=
  if c.isDigit then some (c.toNat - 48)
  else if 'a' ≤ c && c ≤ 'f' then some (c.toNat - 87)
  else if 'A' ≤ c && c ≤ 'F' then some (c.toNat - 55)
  else none

def isHexDigit (c : Char) : Bool :=
  (hexValue? c).isSome

/-- The number that hexadecimal digits write. -/
def hexNumber? (digits : List Char) : Option Nat :=
  digits.foldlM (fun n c => (hexValue? c).map (16 * n + ·)) 0

/-- The character of a code point; none for half of a surrogate pair or beyond the last one. -/
def codePoint? (n : Nat) : Option Char :=
  if n < 0xd800 || (0xdfff < n && n < 0x110000) then some (Char.ofNat n) else none

/-- The character whose code point hexadecimal digits write. -/
def charOfHex? (digits : List Char) : Option Char :=
  (hexNumber? digits).bind codePoint?

end Rehearsal.Text

import Rehearsal.Json.Value

/-!
The value of a number literal.

Digits are gathered as long as they fit 64 bits and the rest are dropped, a dropped digit before the
point counting as a power of ten.  A literal without point and exponent whose digits all fit is an
integer; any other is a double, found by one rounded multiplication or division with a power of ten
(several for very small ones), so that its last bit may differ from that of the nearest double.
-/

namespace Rehearsal.Number

/-- The parts of a number literal. -/
structure Literal where
  negative : Bool
  whole : List Char
  fraction : Option (List Char)
  power : Option (Bool × List Char)
  deriving Repr

/-- Digits gathered so far: `value · 10 ^ exponent`, and whether any digit has been dropped. -/
structure Gathered where
  value : Nat
  exponent : Int
  dropped : Bool

def digitValue (c : Char) : Nat := c.toNat - '0'.toNat

/-- There is room for one more digit. -/
def fits (value : Nat) (digit : Nat) : Bool := value * 10 + digit < Nat.pow 2 64

def gatherWhole (held : Gathered) (c : Char) : Gathered :=
  if !held.dropped && fits held.value (digitValue c) then
    { held with value := held.value * 10 + digitValue c }
  else
    { held with exponent := held.exponent + 1, dropped := true }

/-- Digits behind the point, up to the first for which there is no room. -/
def gatherFraction (value : Nat) (exponent : Int) : List Char → Nat × Int
  | [] => (value, exponent)
  | c :: rest =>
      if fits value (digitValue c) then
        gatherFraction (value * 10 + digitValue c) (exponent - 1) rest
      else (value, exponent)

/-- `value · 10 ^ exponent` by multiplications and divisions with powers of ten up to 10 ^ 308; none
when the result is beyond every double.  Three divisions bring any 64-bit number down to zero. -/
def scale : Nat → Binary64 → Int → Option Binary64
  | 0, _, _ => some (.ofNat 0)
  | fuel + 1, value, exponent =>
      if value.isZero then some value
      else if exponent > 308 then none
      else if 0 ≤ exponent then
        let product := value.mul (.ofDecimal false 1 exponent)
        if product.isFinite then some product else none
      else if -308 ≤ exponent then some (value.div (.ofDecimal false 1 (-exponent)))
      else scale fuel (value.div (.ofDecimal false 1 308)) (exponent + 308)

def naturalOf (digits : List Char) : Nat :=
  digits.foldl (fun n c => n * 10 + digitValue c) 0

/-- The number that a literal stands for; none when it is beyond every double. -/
def ofLiteral (literal : Literal) : Option Number :=
  let held := literal.whole.foldl gatherWhole ⟨0, 0, false⟩
  let signed (value : Binary64) : Number :=
    .real (if literal.negative then value.negate else value)
  if literal.fraction.isNone && literal.power.isNone && !held.dropped then
    if !literal.negative then some (.integer held.value)
    else if held.value == 0 || held.value > Nat.pow 2 63 then some (signed (.ofNat held.value))
    else some (.integer (-(held.value : Int)))
  else
    let (value, exponent) := gatherFraction held.value held.exponent (literal.fraction.getD [])
    let power : Int :=
      match literal.power with
      | none => 0
      | some (negative, digits) =>
          if negative then -(naturalOf digits : Int) else naturalOf digits
    (scale 4 (.ofNat value) (exponent + power)).map signed

end Rehearsal.Number

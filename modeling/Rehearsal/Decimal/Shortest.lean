import Rehearsal.Decimal.Binary64

/-!
The fewest decimal digits that read back as a given double, and of those the nearest.

The numbers that round to a double form an interval whose ends belong to it when the mantissa is
even.  For one digit, two digits and so on, the two neighbours of the value on that decimal grid
are tried; seventeen digits always suffice.
-/

namespace Rehearsal.Binary64

/-- The number of decimal digits of `n`; zero has none. -/
def digitCount (n : Nat) : Nat :=
  if n == 0 then 0 else (Nat.toDigits 10 n).length

/-- The greatest `k` with `10 ^ k ≤ top / bottom`. -/
def magnitude (top bottom : Nat) : Int :=
  if bottom ≤ top then
    (digitCount (top / bottom) : Int) - 1
  else
    -(digitCount ((bottom - 1) / top) : Int)

/-- The interval of reals that round to `mantissa · 2 ^ exponent`, over the denominator `bottom`. -/
structure Interval where
  low : Nat
  middle : Nat
  high : Nat
  bottom : Nat
  closed : Bool

def Interval.around (mantissa : Nat) (exponent : Int) : Interval :=
  let narrow := mantissa == Nat.pow 2 52 && exponent > -1074
  let (unit, bottom) := ratio 1 (exponent - 2)
  { low := unit * (4 * mantissa - (if narrow then 1 else 2))
    middle := unit * (4 * mantissa)
    high := unit * (4 * mantissa + 2)
    bottom := bottom
    closed := mantissa % 2 == 0 }

/-- Whether `digits · 10 ^ exponent` lies in the interval. -/
def Interval.holds (i : Interval) (digits : Nat) (exponent : Int) : Bool :=
  let (value, scale) : Nat × Nat :=
    match exponent with
    | .ofNat up => (digits * Nat.pow 10 up * i.bottom, 1)
    | .negSucc down => (digits * i.bottom, Nat.pow 10 (down + 1))
  if i.closed then
    i.low * scale ≤ value && value ≤ i.high * scale
  else
    i.low * scale < value && value < i.high * scale

/-- Twice the distance of `digits` and of `digits + 1` from the middle, on the grid `10 ^ exponent`:
whether the lower neighbour is the nearer one, a tie going to the even digits. -/
def Interval.lowerIsNearer (i : Interval) (digits : Nat) (exponent : Int) : Bool :=
  let (twice, step) : Nat × Nat :=
    match exponent with
    | .ofNat up => (2 * i.middle, Nat.pow 10 up * i.bottom)
    | .negSucc down => (2 * i.middle * Nat.pow 10 (down + 1), i.bottom)
  let half := (2 * digits + 1) * step
  twice < half || (twice == half && digits % 2 == 0)

/-- The neighbour of the value on the grid with `count` digits that reads back, if one does. -/
def Interval.onGrid? (i : Interval) (count : Nat) : Option (Nat × Int) :=
  let exponent : Int := magnitude i.middle i.bottom - (count : Int) + 1
  let digits : Nat :=
    match exponent with
    | .ofNat up => i.middle / (i.bottom * Nat.pow 10 up)
    | .negSucc down => i.middle * Nat.pow 10 (down + 1) / i.bottom
  match i.holds digits exponent, i.holds (digits + 1) exponent with
  | true, true =>
      if i.lowerIsNearer digits exponent then some (digits, exponent)
      else some (digits + 1, exponent)
  | true, false => some (digits, exponent)
  | false, true => some (digits + 1, exponent)
  | false, false => none

/-- The digits with their trailing zeros moved into the exponent; the fuel is the digit count. -/
def stripZeros : Nat → Nat → Int → Nat × Int
  | fuel + 1, digits, exponent =>
      if digits % 10 == 0 && digits != 0 then stripZeros fuel (digits / 10) (exponent + 1)
      else (digits, exponent)
  | 0, digits, exponent => (digits, exponent)

/-- Digits and exponent of the shortest decimal that reads back as `mantissa · 2 ^ exponent`. -/
def shortest (mantissa : Nat) (exponent : Int) : Nat × Int :=
  if mantissa == 0 then
    (0, 0)
  else
    let i := Interval.around mantissa exponent
    let found := (List.range 17).findSome? fun n => i.onGrid? (n + 1)
    let (digits, exponent) := found.getD (mantissa, exponent)
    stripZeros 20 digits exponent

end Rehearsal.Binary64

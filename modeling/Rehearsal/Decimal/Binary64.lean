/-!
Binary floating point of 64 bits, with exact arithmetic on natural numbers.

A finite number is `± mantissa · 2 ^ exponent`, where the mantissa has at most 53 bits and the
exponent is at least -1074.  Everything that rounds goes through `ofRatio`: to nearest, and a tie
to the even mantissa.
-/

namespace Rehearsal

/-- A number as a 64-bit word of binary floating point holds it. -/
inductive Binary64 where
  | nan
  | infinite (negative : Bool)
  | finite (negative : Bool) (mantissa : Nat) (exponent : Int)
  deriving DecidableEq, Repr, Inhabited

namespace Binary64

/-- `numerator / denominator`, rounded to the nearest natural number, a tie to the even one. -/
def roundDiv (numerator denominator : Nat) : Nat :=
  let quotient := numerator / denominator
  let rest := numerator % denominator
  if denominator < 2 * rest || (2 * rest == denominator && quotient % 2 == 1) then
    quotient + 1
  else
    quotient

/-- `numerator / denominator / 2 ^ exponent`, as a ratio. -/
def scaled (numerator denominator : Nat) (exponent : Int) : Nat × Nat :=
  match exponent with
  | .ofNat up => (numerator, denominator <<< up)
  | .negSucc down => (numerator <<< (down + 1), denominator)

/-- The double nearest to `± numerator / denominator`. -/
def ofRatio (negative : Bool) (numerator denominator : Nat) : Binary64 :=
  if numerator == 0 || denominator == 0 then
    .finite negative 0 (-1074)
  else
    let guess : Int := (numerator.log2 : Int) - (denominator.log2 : Int) - 53
    let (top, bottom) := scaled numerator denominator guess
    let exact : Int := if top / bottom < Nat.pow 2 53 then guess else guess + 1
    let exponent : Int := if exact < -1074 then -1074 else exact
    let (top, bottom) := scaled numerator denominator exponent
    let mantissa := roundDiv top bottom
    let (mantissa, exponent) :=
      if mantissa == Nat.pow 2 53 then (Nat.pow 2 52, exponent + 1) else (mantissa, exponent)
    if exponent > 971 then .infinite negative else .finite negative mantissa exponent

def ofNat (n : Nat) : Binary64 :=
  ofRatio false n 1

/-- The double nearest to `± digits · 10 ^ exponent`. -/
def ofDecimal (negative : Bool) (digits : Nat) (exponent : Int) : Binary64 :=
  if digits == 0 then
    .finite negative 0 (-1074)
  else
    match exponent with
    | .ofNat up =>
        if up > 400 then .infinite negative else ofRatio negative (digits * Nat.pow 10 up) 1
    | .negSucc down =>
        if down > 400 + digits.log2 then .finite negative 0 (-1074)
        else ofRatio negative digits (Nat.pow 10 (down + 1))

/-- The magnitude of a finite number, as a ratio. -/
def ratio (mantissa : Nat) (exponent : Int) : Nat × Nat :=
  match exponent with
  | .ofNat up => (mantissa <<< up, 1)
  | .negSucc down => (mantissa, 1 <<< (down + 1))

def isZero : Binary64 → Bool
  | .finite _ mantissa _ => mantissa == 0
  | _ => false

def isFinite : Binary64 → Bool
  | .finite .. => true
  | _ => false

def negate : Binary64 → Binary64
  | .nan => .nan
  | .infinite negative => .infinite !negative
  | .finite negative mantissa exponent => .finite (!negative) mantissa exponent

/-- The rounded product of two numbers that are finite and not negative. -/
def mul : Binary64 → Binary64 → Binary64
  | .finite _ m p, .finite _ n q =>
      let (top, bottom) := ratio m p
      let (top', bottom') := ratio n q
      ofRatio false (top * top') (bottom * bottom')
  | .nan, _ | _, .nan => .nan
  | _, _ => .infinite false

/-- The rounded quotient of two finite numbers that are not negative, the second above zero. -/
def div : Binary64 → Binary64 → Binary64
  | .finite _ m p, .finite _ n q =>
      let (top, bottom) := ratio m p
      let (top', bottom') := ratio n q
      ofRatio false (top * bottom') (bottom * top')
  | .infinite negative, .finite .. => .infinite negative
  | _, _ => .nan

end Binary64

end Rehearsal

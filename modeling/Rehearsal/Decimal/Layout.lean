import Rehearsal.Decimal.Shortest

/-!
How the digits of a double are laid out as text.

`plain` writes every number positionally.  `compact` keeps to positional notation while the point
stands within sixteen digits or behind at most four zeros, and writes an exponent beyond that.
Both keep a fractional part, so that a double is never mistaken for an integer.
-/

namespace Rehearsal.Binary64

def zeros (n : Nat) : String :=
  String.ofList (List.replicate n '0')

/-- `digits · 10 ^ exponent` with a decimal point and at least one digit on either side of it. -/
def positional (digits : Nat) (exponent : Int) : String :=
  let text := toString digits
  match exponent with
  | .ofNat up => text ++ zeros up ++ ".0"
  | .negSucc down =>
      let places := down + 1
      if places < text.length then
        let whole := text.length - places
        String.ofList (text.toList.take whole) ++ "." ++ String.ofList (text.toList.drop whole)
      else
        "0." ++ zeros (places - text.length) ++ text

/-- One digit before the point, the others behind it, and a signed exponent. -/
def scientific (digits : Nat) (exponent : Int) : String :=
  let text := toString digits
  let power : Int := exponent + (text.length : Int) - 1
  let lead := String.ofList (text.toList.take 1)
  let rest := String.ofList (text.toList.drop 1)
  let sign := if power < 0 then "-" else "+"
  lead ++ (if rest.isEmpty then "" else "." ++ rest) ++ "e" ++ sign ++ toString power.natAbs

def signed (negative : Bool) (text : String) : String :=
  if negative then "-" ++ text else text

/-- Every digit in its place. -/
def plain : Binary64 → String
  | .nan => "NaN"
  | .infinite negative => signed negative "inf"
  | .finite negative mantissa exponent =>
      let (digits, power) := shortest mantissa exponent
      signed negative (positional digits power)

/-- Positional within sixteen digits, with an exponent beyond. -/
def compact : Binary64 → String
  | .nan => "NaN"
  | .infinite negative => signed negative "inf"
  | .finite negative mantissa exponent =>
      let (digits, power) := shortest mantissa exponent
      let point : Int := power + ((toString digits).length : Int)
      signed negative <|
        if digits == 0 || (-5 < point && point ≤ 16) then positional digits power
        else scientific digits power

end Rehearsal.Binary64

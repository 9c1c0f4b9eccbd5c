import Rehearsal.Source.Node
import Rehearsal.Toml.Text

/-!
The values of TOML.

Numbers may have underscores between digits.  An integer has at most 64 bits; a date or time is a
map of its own kind.
-/

namespace Rehearsal.Toml

open Source

/-! ### Numbers -/

/-- Digits with single underscores between them; `ready` if an underscore may stand here. -/
def digits? (isDigit : Char → Bool) (ready : Bool) : Chars → Option (Chars × Chars)
  | '_' :: c :: rest =>
      if ready && isDigit c then
        (digits? isDigit true rest).map fun (more, rest) => (c :: more, rest)
      else if ready then some ([], '_' :: c :: rest)
      else none
  | c :: rest =>
      if isDigit c then (digits? isDigit true rest).map fun (more, rest) => (c :: more, rest)
      else if ready then some ([], c :: rest)
      else none
  | [] => if ready then some ([], []) else none

/-- Decimal digits without a needless zero before them. -/
def decimal? : Chars → Option (Chars × Chars)
  | '0' :: rest => some (['0'], rest)
  | chars => digits? Char.isDigit false chars

def valueOf (base : Nat) (digits : Chars) : Nat :=
  digits.foldl (fun n c => base * n + (Text.hexValue? c).getD 0) 0

def integerNode? (value : Int) : Option Node :=
  if -0x8000000000000000 ≤ value && value < 0x8000000000000000 then
    some (.ofAtom (.number (.integer value)))
  else none

def isOctalDigit (c : Char) : Bool := '0' ≤ c && c ≤ '7'

def isBinaryDigit (c : Char) : Bool := c == '0' || c == '1'

/-- An integer in another base than ten. -/
def basedInteger? (base : Nat) (isDigit : Char → Bool) (chars : Chars) :
    Option (Node × Chars) := do
  let (digits, rest) ← digits? isDigit false chars
  some (← integerNode? (valueOf base digits), rest)

def fraction? : Chars → Option (Chars × Chars)
  | '.' :: rest => digits? Char.isDigit false rest
  | _ => none

def power? : Chars → Option (Int × Chars)
  | c :: rest =>
      if c == 'e' || c == 'E' then do
        let (negative, rest) := Text.sign rest
        let (digits, rest) ← digits? Char.isDigit false rest
        let value : Int := valueOf 10 digits
        some (if negative then -value else value, rest)
      else none
  | [] => none

/-- A double; one that is too great is refused, unless it is negative. -/
def realNode? (negative : Bool) (whole fraction : Chars) (power : Int) : Option Node :=
  let digits := valueOf 10 (whole ++ fraction)
  let value := Binary64.ofDecimal negative digits (power - (fraction.length : Int))
  if value = .infinite false then none else some (.ofAtom (.number (.real value)))

/-- A number in base ten: a double if it has a fraction or a power, an integer otherwise. -/
def decimalNumber? (chars : Chars) : Option (Node × Chars) := do
  let (negative, chars) := Text.sign chars
  let (whole, rest) ← decimal? chars
  match rest with
  | '.' :: _ => do
      let (fraction, rest) ← fraction? rest
      match rest with
      | c :: _ =>
          if c == 'e' || c == 'E' then do
            let (power, rest) ← power? rest
            some (← realNode? negative whole fraction power, rest)
          else some (← realNode? negative whole fraction 0, rest)
      | [] => some (← realNode? negative whole fraction 0, rest)
  | c :: _ =>
      if c == 'e' || c == 'E' then do
        let (power, rest) ← power? rest
        some (← realNode? negative whole [] power, rest)
      else integer negative whole rest
  | [] => integer negative whole rest
where
  /-- The integer that these digits write. -/
  integer (negative : Bool) (whole rest : Chars) : Option (Node × Chars) := do
    let value : Int := valueOf 10 whole
    some (← integerNode? (if negative then -value else value), rest)

/-- `inf` or `nan` behind an optional sign. -/
def specialNumber? (chars : Chars) : Option (Node × Chars) :=
  match Text.sign chars with
  | (negative, 'i' :: 'n' :: 'f' :: rest) =>
      some (.ofAtom (.number (.real (.infinite negative))), rest)
  | (_, 'n' :: 'a' :: 'n' :: rest) => some (.ofAtom (.number (.real .nan)), rest)
  | _ => none

/-! ### Dates and times -/

/-- A number in exactly `count` digits. -/
def fixedDigits? (count : Nat) (chars : Chars) : Option (Nat × Chars) :=
  let digits := chars.take count
  if digits.length == count && digits.all Char.isDigit then
    some (valueOf 10 digits, chars.drop count)
  else none

def literal? (c : Char) : Chars → Option Chars
  | d :: rest => if c == d then some rest else none
  | [] => none

/-- A number in two digits up to `most`. -/
def twoDigits? (most : Nat) (chars : Chars) : Option (Nat × Chars) := do
  let (n, rest) ← fixedDigits? 2 chars
  if n ≤ most then some (n, rest) else none

def isLeapYear (year : Nat) : Bool :=
  year % 4 == 0 && (year % 100 != 0 || year % 400 == 0)

def daysIn (year month : Nat) : Nat :=
  if month == 2 then (if isLeapYear year then 29 else 28)
  else if [4, 6, 9, 11].contains month then 30
  else 31

/-- Passes over a date that exists. -/
def date? (chars : Chars) : Option Chars := do
  let (year, rest) ← fixedDigits? 4 chars
  let (month, rest) ← twoDigits? 12 (← literal? '-' rest)
  let (day, rest) ← twoDigits? 31 (← literal? '-' rest)
  if 1 ≤ month && 1 ≤ day && day ≤ daysIn year month then some rest else none

/-- Passes over a time of day. -/
def time? (chars : Chars) : Option Chars := do
  let (_, rest) ← twoDigits? 23 chars
  let (_, rest) ← twoDigits? 59 (← literal? ':' rest)
  let (_, rest) ← twoDigits? 60 (← literal? ':' rest)
  match rest with
  | '.' :: c :: rest => if c.isDigit then some (rest.dropWhile Char.isDigit) else none
  | '.' :: [] => none
  | rest => some rest

/-- Passes over the distance from universal time. -/
def offset? : Chars → Option Chars
  | c :: rest =>
      if c == 'Z' || c == 'z' then some rest
      else if c == '+' || c == '-' then do
        let (_, rest) ← twoDigits? 23 rest
        let (_, rest) ← twoDigits? 59 (← literal? ':' rest)
        some rest
      else none
  | [] => none

/-- Passes over a date with an optional time, or a time alone. -/
def moment? (chars : Chars) : Option Chars :=
  match date? chars with
  | some rest =>
      match rest with
      | c :: behind =>
          if c == 'T' || c == 't' || c == ' ' then
            match time? behind with
            | some rest => some ((offset? rest).getD rest)
            | none => some rest
          else some rest
      | [] => some []
  | none => time? chars

/-- What a date or time is to one who expected something else. -/
def momentNode (words : Chars) : Node :=
  .map [(.ofAtom (.text "datetime"), .ofAtom (.text (String.ofList words)))]

/-- A value that begins with a digit or a sign. -/
def number? (chars : Chars) : Option (Node × Chars) :=
  match moment? chars with
  | some rest => some (momentNode (chars.take (chars.length - rest.length)), rest)
  | none =>
      match chars with
      | '0' :: 'x' :: rest => basedInteger? 16 Text.isHexDigit rest
      | '0' :: 'o' :: rest => basedInteger? 8 isOctalDigit rest
      | '0' :: 'b' :: rest => basedInteger? 2 isBinaryDigit rest
      | chars => (specialNumber? chars).or (decimalNumber? chars)

/-- Passes over a word. -/
def word? (word : String) (chars : Chars) : Option Chars :=
  if word.toList.isPrefixOf chars then some (chars.drop word.length) else none

/-- Whatever is neither a list nor a map. -/
def scalar? (chars : Chars) : Option (Node × Chars) :=
  match chars with
  | '\x22' :: _ | '\x27' :: _ =>
      (string? chars).map fun (content, rest) => (.ofAtom (.text content), rest)
  | 't' :: _ => (word? "true" chars).map fun rest => (.ofAtom (.bool true), rest)
  | 'f' :: _ => (word? "false" chars).map fun rest => (.ofAtom (.bool false), rest)
  | _ => number? chars

end Rehearsal.Toml

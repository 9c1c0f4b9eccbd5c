import Rehearsal.Pattern.Property

/-!
What a pattern means, and whether it occurs in a text.

Places of a text are numbered from zero, and a set of places is a number whose bits are its members.
An expression takes a set of places to the set of places at which it can end when it begins at one
of them.  A pattern occurs in a text when it can end anywhere after beginning anywhere.
-/

namespace Rehearsal.Pattern

open Unicode

/-- Expressions over sets of characters `σ` and conditions on places `κ`. -/
inductive Regex (σ κ : Type) where
  /-- One character out of a set. -/
  | chars (set : σ)
  /-- A place that meets a condition. -/
  | look (condition : κ)
  | seq (parts : List (Regex σ κ))
  | alt (branches : List (Regex σ κ))
  /-- At least `least` times and at most `most` times, if there is a bound; `short` when as few
  times as possible. -/
  | repeated (least : Nat) (most : Option Nat) (short : Bool) (body : Regex σ κ)
  /-- A group whose match is remembered. -/
  | capture (body : Regex σ κ)
  deriving Repr, Inhabited

/-- A condition on a place. -/
inductive Look where
  | textStart
  | textEnd
  | lineStart (crlf : Bool)
  | lineEnd (crlf : Bool)
  | word (kind : Assertion) (unicode : Bool)
  deriving DecidableEq, Repr

/-- Whether a word character stands there. -/
def isWordAt (unicode : Bool) (c : Option Char) : Bool :=
  match c with
  | some c => (PerlClass.word.chars unicode).contains c
  | none => false

/-- Whether the condition holds between two characters; there is none beyond the ends of a text. -/
def Look.holds (before after : Option Char) : Look → Bool
  | .textStart => before.isNone
  | .textEnd => after.isNone
  | .lineStart false => before.isNone || before == some '\n'
  | .lineEnd false => after.isNone || after == some '\n'
  | .lineStart true =>
      before.isNone || before == some '\n' || (before == some '\r' && after != some '\n')
  | .lineEnd true =>
      after.isNone || after == some '\r' || (after == some '\n' && before != some '\r')
  | .word kind unicode =>
      let left := isWordAt unicode before
      let right := isWordAt unicode after
      match kind with
      | .wordBoundary => left != right
      | .notWordBoundary => left == right
      | .wordStart => !left && right
      | .wordEnd => left && !right
      | .wordStartHalf => !left
      | .wordEndHalf => !right
      | _ => false

namespace Regex

variable {σ κ : Type}

mutual

/-- The same expression over other sets and conditions. -/
def map {σ' κ' : Type} (f : σ → σ') (g : κ → κ') : Regex σ κ → Regex σ' κ'
  | .chars set => .chars (f set)
  | .look condition => .look (g condition)
  | .seq parts => .seq (mapAll f g parts)
  | .alt branches => .alt (mapAll f g branches)
  | .repeated least most short body => .repeated least most short (body.map f g)
  | .capture body => .capture (body.map f g)

def mapAll {σ' κ' : Type} (f : σ → σ') (g : κ → κ') : List (Regex σ κ) → List (Regex σ' κ')
  | [] => []
  | regex :: rest => regex.map f g :: mapAll f g rest

end

/-- The set of places that satisfy `p`. -/
def placesWhere (p : α → Bool) : List α → Nat
  | [] => 0
  | a :: rest => 2 * placesWhere p rest + (if p a then 1 else 0)

/-- Each place of a text, as the characters before and behind it. -/
def places (before : Option Char) : List Char → List (Option Char × Option Char)
  | [] => [(before, none)]
  | c :: rest => (before, some c) :: places (some c) rest

/-- Applies `step` a given number of times, or until that changes nothing any more. -/
def iterate (step : Nat → Nat) : Nat → Nat → Nat
  | 0, starts => starts
  | count + 1, starts =>
      let next := step starts
      if next == starts then starts else iterate step count next

/-- Everything within reach in at most `count` steps; `fresh` is what the last step has added. -/
def reach (step : Nat → Nat) : Nat → Nat → Nat → Nat
  | 0, held, _ => held
  | count + 1, held, fresh =>
      let next := step fresh
      let joined := held ||| next
      if joined == held then held else reach step count joined (joined ^^^ held)

mutual

/-- The places at which an expression can end.  Sets of characters are given by the places before
them, and `size` bounds the number of places. -/
def ends (size : Nat) : Regex Nat Nat → Nat → Nat
  | .chars set, starts => (starts &&& set) <<< 1
  | .look condition, starts => starts &&& condition
  | .seq parts, starts => endsOfParts size parts starts
  | .alt branches, starts => endsOfBranches size branches starts
  | .repeated least most _ body, starts =>
      let after := iterate (body.ends size) least starts
      let rounds :=
        match most with
        | some most => min (most - least) size
        | none => size
      reach (body.ends size) rounds after after
  | .capture body, starts => body.ends size starts

def endsOfParts (size : Nat) : List (Regex Nat Nat) → Nat → Nat
  | [], starts => starts
  | part :: rest, starts => endsOfParts size rest (part.ends size starts)

def endsOfBranches (size : Nat) : List (Regex Nat Nat) → Nat → Nat
  | [], _ => 0
  | branch :: rest, starts => branch.ends size starts ||| endsOfBranches size rest starts

end

/-- The expression over the places of a text. -/
def locate (text : List Char) (regex : Regex CharSet Look) : Regex Nat Nat :=
  let between := places none text
  regex.map (fun set => placesWhere set.contains text)
    (fun look => placesWhere (fun place => look.holds place.1 place.2) between)

/-- The expression matches some part of the text. -/
def occursIn (regex : Regex CharSet Look) (text : List Char) : Bool :=
  let size := text.length + 1
  (regex.locate text).ends size (Nat.pow 2 size - 1) != 0

end Regex

end Rehearsal.Pattern

import Rehearsal.Json.Number
import Rehearsal.Source.Manner
import Rehearsal.Text.Digits

/-!
JSON texts as trees.

The tree breaks off where the text stops being JSON.  A string with half a surrogate pair and a
number beyond every double are well formed, so they can be passed over, but they say nothing.
-/

namespace Rehearsal.Json.Reader

open Source

/-- What is left of the text; nothing once it has broken off. -/
abbrev Rest := Option (List Char)

def isSpace (c : Char) : Bool :=
  c == ' ' || c == '\n' || c == '\t' || c == '\r'

def skipSpace (chars : List Char) : List Char :=
  chars.dropWhile isSpace

def fourDigits? : List Char → Option (Nat × List Char)
  | a :: b :: c :: d :: rest => (Text.hexNumber? [a, b, c, d]).map fun n => (n, rest)
  | _ => none

/-- The character of an escape of one letter. -/
def simpleEscape? : Char → Option Char
  | '\x22' => some '\x22'
  | '\\' => some '\\'
  | '/' => some '/'
  | 'b' => some '\x08'
  | 'f' => some '\x0c'
  | 'n' => some '\n'
  | 'r' => some '\r'
  | 't' => some '\t'
  | _ => none

/-- Code units of a string literal behind its opening quotation mark, up to the closing one: a
character that stands for itself, or the number of an escape. -/
def units : Nat → List Char → Option (List (Char ⊕ Nat) × List Char)
  | 0, _ => none
  | fuel + 1, chars =>
      match chars with
      | [] => none
      | '\x22' :: rest => some ([], rest)
      | '\\' :: 'u' :: rest => do
          let (n, rest) ← fourDigits? rest
          let (more, rest) ← units fuel rest
          some (.inr n :: more, rest)
      | '\\' :: c :: rest => do
          let escaped ← simpleEscape? c
          let (more, rest) ← units fuel rest
          some (.inl escaped :: more, rest)
      | c :: rest =>
          if c.toNat < 0x20 || c == '\\' then none
          else do
            let (more, rest) ← units fuel rest
            some (.inl c :: more, rest)

/-- Joins surrogate pairs; none when one half stands without the other. -/
def joinUnits : List (Char ⊕ Nat) → Option (List Char)
  | [] => some []
  | .inl c :: rest => (joinUnits rest).map (c :: ·)
  | [.inr n] => if 0xd800 ≤ n && n ≤ 0xdfff then none else some [Char.ofNat n]
  | .inr n :: next :: rest =>
      if 0xd800 ≤ n && n ≤ 0xdbff then
        match next with
        | .inr low =>
            if 0xdc00 ≤ low && low ≤ 0xdfff then
              (joinUnits rest).map
                (Char.ofNat (0x10000 + (n - 0xd800) * 0x400 + (low - 0xdc00)) :: ·)
            else none
        | .inl _ => none
      else if 0xdc00 ≤ n && n ≤ 0xdfff then none
      else (joinUnits (next :: rest)).map (Char.ofNat n :: ·)

/-- A string literal behind its opening quotation mark. -/
def string (fuel : Nat) (chars : List Char) : Node × Rest :=
  match units fuel chars with
  | none => (.cut, none)
  | some (read, rest) =>
      match joinUnits read with
      | some joined => (Node.ofAtom (.text (String.ofList joined)), some rest)
      | none => (.scalar none (.error .unreadable), some rest)

/-- The digits in front, at least one of them. -/
def digits? (chars : List Char) : Option (List Char × List Char) :=
  let digits := chars.takeWhile Char.isDigit
  if digits.isEmpty then none else some (digits, chars.dropWhile Char.isDigit)

def fraction? : List Char → Option (Option (List Char) × List Char)
  | '.' :: rest => (digits? rest).map fun (digits, rest) => (some digits, rest)
  | chars => some (none, chars)

def power? : List Char → Option (Option (Bool × List Char) × List Char)
  | c :: rest =>
      if c == 'e' || c == 'E' then
        let (negative, rest) : Bool × List Char :=
          match rest with
          | '-' :: rest => (true, rest)
          | '+' :: rest => (false, rest)
          | rest => (false, rest)
        (digits? rest).map fun (digits, rest) => (some (negative, digits), rest)
      else some (none, c :: rest)
  | [] => some (none, [])

/-- The parts of a number literal in front of the text. -/
def literal? (chars : List Char) : Option (Number.Literal × List Char) := do
  let (negative, chars) : Bool × List Char :=
    match chars with
    | '-' :: rest => (true, rest)
    | rest => (false, rest)
  let (whole, chars) ← digits? chars
  if whole.head? == some '0' && whole.length > 1 then none
  else do
    let (fraction, chars) ← fraction? chars
    let (power, chars) ← power? chars
    some ({ negative, whole, fraction, power }, chars)

def number (chars : List Char) : Node × Rest :=
  match literal? chars with
  | none => (.cut, none)
  | some (literal, rest) =>
      match Number.ofLiteral literal with
      | some value => (Node.ofAtom (.number value), some rest)
      | none => (.scalar none (.error .unreadable), some rest)

/-- A word in front of the text that stands for `atom`. -/
def word (expected : String) (atom : Atom) (chars : List Char) : Node × Rest :=
  if expected.toList.isPrefixOf chars then
    (Node.ofAtom atom, some (chars.drop expected.length))
  else (.cut, none)

mutual

/-- A value in front of the text, behind blanks. -/
def value : Nat → List Char → Node × Rest
  | 0, _ => (.cut, none)
  | fuel + 1, chars =>
      match skipSpace chars with
      | '\x22' :: rest => string fuel rest
      | '[' :: rest =>
          match skipSpace rest with
          | ']' :: rest => (.list [], some rest)
          | rest =>
              let (items, rest) := items fuel rest
              (.list items, rest)
      | '\x7b' :: rest =>
          match skipSpace rest with
          | '\x7d' :: rest => (.map [], some rest)
          | rest =>
              let (entries, rest) := entries fuel rest
              (.map entries, rest)
      | 'n' :: rest => word "null" .null ('n' :: rest)
      | 't' :: rest => word "true" (.bool true) ('t' :: rest)
      | 'f' :: rest => word "false" (.bool false) ('f' :: rest)
      | c :: rest => if c == '-' || c.isDigit then number (c :: rest) else (.cut, none)
      | [] => (.cut, none)

/-- The items of a list from the next one on, up to the closing bracket. -/
def items : Nat → List Char → List Node × Rest
  | 0, _ => ([.cut], none)
  | fuel + 1, chars =>
      match value fuel chars with
      | (item, none) => ([item], none)
      | (item, some rest) =>
          match skipSpace rest with
          | ']' :: rest => ([item], some rest)
          | ',' :: rest =>
              let (more, rest) := items fuel rest
              (item :: more, rest)
          | _ => ([item, .cut], none)

/-- The members of an object from the next one on, up to the closing brace. -/
def entries : Nat → List Char → List (Node × Node) × Rest
  | 0, _ => ([(.cut, .cut)], none)
  | fuel + 1, chars =>
      match skipSpace chars with
      | '\x22' :: rest =>
          match string fuel rest with
          | (key, none) => ([(key, .cut)], none)
          | (key, some rest) =>
              match skipSpace rest with
              | ':' :: rest =>
                  match value fuel rest with
                  | (node, none) => ([(key, node)], none)
                  | (node, some rest) =>
                      match skipSpace rest with
                      | '\x7d' :: rest => ([(key, node)], some rest)
                      | ',' :: rest =>
                          let (more, rest) := entries fuel rest
                          ((key, node) :: more, rest)
                      | _ => ([(key, node), (.cut, .cut)], none)
              | _ => ([(key, .cut)], none)
      | _ => ([(.cut, .cut)], none)

end

/-- The tree of a text, and whether nothing but blanks stands behind it. -/
def read (text : String) : Node × Bool :=
  match value (2 * text.length + 2) text.toList with
  | (node, none) => (node, false)
  | (node, some rest) => (node, (skipSpace rest).isEmpty)

end Rehearsal.Json.Reader

namespace Rehearsal.Json

open Source

/-- Takes a value out of a JSON text that holds nothing else. -/
def decode {α : Type} (take : Node → Except Fault α) (text : String) : Except Fault α := do
  let (node, ended) := Reader.read text
  let value ← take node
  if ended then .ok value else .error .unreadable

/-- Any JSON value. -/
def ofNode (node : Node) : Except Fault Json := do
  (← node.settle Manner.json.levels).json

def parse (text : String) : Except Fault Json :=
  decode ofNode text

end Rehearsal.Json

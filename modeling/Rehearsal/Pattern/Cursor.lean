import Rehearsal.Pattern.Fault
import Rehearsal.Text.Basic

/-!
A place in a pattern, and the steps that move it.

In verbose mode blanks and comments stand between any two parts of a pattern; `skipBlanks` passes
over them and does nothing otherwise.
-/

namespace Rehearsal.Pattern

/-- What is left of a pattern, where that is, and the capture names that have come up. -/
structure Cursor where
  rest : List Char
  place : Nat
  verbose : Bool
  names : List (String × Span)

/-- A step through a pattern. -/
abbrev Reading := StateT Cursor (Except Fault)

namespace Reading

def fail {α : Type} (cause : Cause) (start stop : Nat) : Reading α :=
  throw { cause, span := ⟨start, stop⟩ }

def place : Reading Nat := do
  return (← get).place

/-- The next character. -/
def peek? : Reading (Option Char) := do
  return (← get).rest.head?

def atEnd : Reading Bool := do
  return (← get).rest.isEmpty

def nextIs (c : Char) : Reading Bool := do
  return (← peek?) == some c

/-- The span of the next character. -/
def here : Reading Span := do
  let cursor ← get
  return ⟨cursor.place, cursor.place + (if cursor.rest.isEmpty then 0 else 1)⟩

/-- Fails at the next character. -/
def failHere {α : Type} (cause : Cause) : Reading α := do
  let span ← here
  fail cause span.start span.stop

/-- Fails between two characters. -/
def failBefore {α : Type} (cause : Cause) : Reading α := do
  let place ← place
  fail cause place place

/-- Passes over one character; whether another one follows. -/
def advance : Reading Bool := do
  let cursor ← get
  match cursor.rest with
  | [] => return false
  | _ :: rest =>
      set { cursor with rest, place := cursor.place + 1 }
      return !rest.isEmpty

/-- What stands behind blanks and comments, and how many characters those have. -/
def behindBlanks (inComment : Bool) : List Char → List Char × Nat
  | [] => ([], 0)
  | c :: rest =>
      if inComment then
        let (left, count) := behindBlanks (c != '\n') rest
        (left, count + 1)
      else if Text.isBlankChar c then
        let (left, count) := behindBlanks false rest
        (left, count + 1)
      else if c == '#' then
        let (left, count) := behindBlanks true rest
        (left, count + 1)
      else (c :: rest, 0)

def skipBlanks : Reading Unit := do
  let cursor ← get
  if cursor.verbose then
    let (rest, count) := behindBlanks false cursor.rest
    set { cursor with rest, place := cursor.place + count }

/-- Passes over one character and the blanks behind it; whether anything follows. -/
def advanceFar : Reading Bool := do
  if ← advance then
    skipBlanks
    return !(← atEnd)
  else
    return false

/-- Passes over `text` if it stands here. -/
def skipIf (text : String) : Reading Bool := do
  let cursor ← get
  if text.toList.isPrefixOf cursor.rest then
    set { cursor with
      rest := cursor.rest.drop text.length, place := cursor.place + text.length }
    return true
  else
    return false

/-- The character that a look past the blanks behind the next character shows.  The look ends
within a comment, at its first character. -/
def lookBehindBlanks (inComment : Bool) : List Char → Option Char
  | [] => none
  | c :: rest =>
      if Text.isBlankChar c then lookBehindBlanks inComment rest
      else if !inComment && c == '#' then lookBehindBlanks true rest
      else some c

/-- The character behind the next one, past blanks in verbose mode. -/
def peekFar? : Reading (Option Char) := do
  let cursor ← get
  match cursor.rest with
  | [] => return none
  | _ :: rest =>
      if cursor.verbose then
        return (lookBehindBlanks false rest).or rest.head?
      else
        return rest.head?

/-- The characters from here on for which `p` holds, with the blanks behind each passed over. -/
def gather (p : Char → Bool) : Nat → Reading (List Char)
  | 0 => return []
  | fuel + 1 => do
      match ← peek? with
      | some c =>
          if p c then
            let _ ← advanceFar
            return c :: (← gather p fuel)
          else
            return []
      | none => return []

/-- As `gather`, for as many characters as there are. -/
def gatherAll (p : Char → Bool) : Reading (List Char) := do
  gather p ((← get).rest.length + 1)

end Reading

end Rehearsal.Pattern

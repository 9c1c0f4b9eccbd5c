/-!
A place in a YAML text, and the gaps between words.

The characters of a text count by lines and columns, because in YAML the column of a word says what
the word belongs to.
-/

namespace Rehearsal.Yaml

/-- Characters that a text may hold; any other makes all of it unreadable. -/
def isReadable (c : Char) : Bool :=
  c == '\t' || c == '\n' || c == '\r' || c == '\u0085' ||
    (0x20 ≤ c.toNat && c.toNat ≤ 0x7e) ||
    (0xa0 ≤ c.toNat && c.toNat != 0xfffe && c.toNat != 0xffff)

def isBlank (c : Char) : Bool :=
  c == ' ' || c == '\t'

def isBreak (c : Char) : Bool :=
  c == '\n' || c == '\r' || c == '\u0085' || c == '\u2028' || c == '\u2029'

/-- Characters that names are made of. -/
def isNameChar (c : Char) : Bool :=
  c.isAlphanum || c == '_' || c == '-'

/-- A word ends in front of this character. -/
def endsWord : Option Char → Bool
  | none => true
  | some c => isBlank c || isBreak c

/-- What is left of a text, and how much of the text and of the present line lies before that. -/
structure Place where
  rest : List Char
  /-- The number of characters that are left. -/
  left : Nat
  index : Nat
  line : Nat
  column : Nat
  deriving Repr

namespace Place

def start (text : List Char) : Place :=
  { rest := text, left := text.length, index := 0, line := 0, column := 0 }

/-- The character that comes after `n` others. -/
def peek? (place : Place) (n : Nat) : Option Char :=
  place.rest[n]?

def next? (place : Place) : Option Char :=
  place.rest.head?

def nextIs (place : Place) (c : Char) : Bool :=
  place.next? == some c

/-- Moves on by `n` characters of the line. -/
def skip (place : Place) (n : Nat) : Place :=
  { place with
    rest := place.rest.drop n, left := place.left - n, index := place.index + n,
    column := place.column + n }

/-- The characters in front as long as they satisfy `p`, and the place behind them. -/
def span (place : Place) (p : Char → Bool) : List Char × Place :=
  let chars := place.rest.takeWhile p
  (chars, place.skip chars.length)

def skipWhile (place : Place) (p : Char → Bool) : Place :=
  (place.span p).2

/-- The beginning of the next line, behind a line break of `n` characters. -/
def newLine (place : Place) (n : Nat) : Place :=
  { rest := place.rest.drop n, left := place.left - n, index := place.index + n,
    line := place.line + 1, column := 0 }

/-- A line break, as it counts in a text: all of them but two count as a line feed. -/
def lineBreak? (place : Place) : Option (Char × Place) :=
  match place.rest with
  | '\r' :: '\n' :: _ => some ('\n', place.newLine 2)
  | c :: _ =>
      if c == '\u2028' || c == '\u2029' then some (c, place.newLine 1)
      else if isBreak c then some ('\n', place.newLine 1)
      else none
  | [] => none

/-- Passes over a comment up to the end of its line. -/
def skipComment (place : Place) : Place :=
  if place.nextIs '#' then place.skipWhile fun c => !isBreak c else place

/-- Blanks, perhaps a comment, and the end of the line. -/
def endLine? (place : Place) : Option Place :=
  let place := (place.skipWhile isBlank).skipComment
  match place.lineBreak? with
  | some (_, place) => some place
  | none => if place.rest.isEmpty then some place else none

/-- A line begins with three characters `mark` that stand for themselves. -/
def atMark (place : Place) (mark : Char) : Bool :=
  place.column == 0 && place.rest.take 3 == [mark, mark, mark] && endsWord (place.peek? 3)

/-- A document begins or ends here. -/
def atBoundary (place : Place) : Bool :=
  place.atMark '-' || place.atMark '.'

end Place

/-- Blanks and line breaks between two words. -/
structure Gap where
  /-- Blanks before the first line break. -/
  blanks : List Char
  /-- The line has been left. -/
  broken : Bool
  /-- The line break that ended the line of the word before, unless that one was escaped. -/
  first : Option Char
  /-- The line breaks of the empty lines after it. -/
  others : List Char

namespace Gap

/-- A gap with nothing in it yet; `broken` if it began with an escaped line break. -/
def empty (broken : Bool) : Gap :=
  { blanks := [], broken, first := none, others := [] }

def addBlank (gap : Gap) (c : Char) : Gap :=
  if gap.broken then gap else { gap with blanks := gap.blanks ++ [c] }

def addBreak (gap : Gap) (mark : Char) : Gap :=
  if gap.broken then { gap with others := gap.others ++ [mark] }
  else { blanks := [], broken := true, first := some mark, others := [] }

/-- What a gap stands for: blanks within a line for themselves, one line break for a space, and
further ones for themselves. -/
def folded (gap : Gap) : List Char :=
  if !gap.broken then gap.blanks
  else if gap.first == some '\n' then
    if gap.others.isEmpty then [' '] else gap.others
  else gap.first.toList ++ gap.others

/-- Reads a gap on.  On a new line no tab may stand before the column `indent`. -/
def read (indent : Nat) : Nat → Gap → Place → Option (Gap × Place)
  | 0, gap, place => some (gap, place)
  | fuel + 1, gap, place =>
      match place.lineBreak?, place.next? with
      | some (mark, behind), _ => read indent fuel (gap.addBreak mark) behind
      | none, some c =>
          if !isBlank c then some (gap, place)
          else if gap.broken && c == '\t' && place.column < indent then none
          else read indent fuel (gap.addBlank c) (place.skip 1)
      | none, none => some (gap, place)

end Gap

end Rehearsal.Yaml

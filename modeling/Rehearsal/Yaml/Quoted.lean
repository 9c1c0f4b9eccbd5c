import Rehearsal.Text.Digits
import Rehearsal.Yaml.Place

/-!
Scalars between quotation marks.

Between single marks everything stands for itself and a mark is written twice.  Between double marks
a backslash begins an escape.  Line breaks are folded in both.
-/

namespace Rehearsal.Yaml.Quoted

/-- What the character behind a backslash makes of an escape. -/
inductive Escape where
  | char (c : Char)
  /-- A code point in so many hexadecimal digits. -/
  | digits (count : Nat)

def escapes : List (Char × Escape) :=
  [('0', .char '\x00'), ('a', .char '\x07'), ('b', .char '\x08'), ('t', .char '\t'),
    ('\t', .char '\t'), ('n', .char '\n'), ('v', .char '\x0b'), ('f', .char '\x0c'),
    ('r', .char '\r'), ('e', .char '\x1b'), (' ', .char ' '), ('\x22', .char '\x22'),
    ('/', .char '/'), ('\\', .char '\\'), ('N', .char '\u0085'), ('_', .char '\u00a0'),
    ('L', .char '\u2028'), ('P', .char '\u2029'), ('x', .digits 2), ('u', .digits 4),
    ('U', .digits 8)]

/-- The character of an escape, behind the backslash. -/
def escape? (place : Place) : Option (Char × Place) := do
  let c ← place.next?
  match ← escapes.lookup c with
  | .char meant => some (meant, place.skip 1)
  | .digits count =>
      let place := place.skip 1
      let digits := place.rest.take count
      if digits.length < count then none
      else
        let meant ← Text.charOfHex? digits
        some (meant, place.skip count)

/-- Characters up to the next blank, line break or closing mark, and whether a line break follows
that was escaped; such a break is passed over. -/
def word (mark : Char) : Nat → Place → Option (List Char × Bool × Place)
  | 0, _ => none
  | fuel + 1, place =>
      match place.next? with
      | none => some ([], false, place)
      | some c => do
          if isBlank c || isBreak c then some ([], false, place)
          else if c == mark then
            if mark == '\'' && place.peek? 1 == some mark then
              let (more, escaped, place) ← word mark fuel (place.skip 2)
              some (mark :: more, escaped, place)
            else some ([], false, place)
          else if mark == '\x22' && c == '\\' then
            match (place.skip 1).lineBreak? with
            | some (_, place) => some ([], true, place)
            | none =>
                let (meant, place) ← escape? (place.skip 1)
                let (more, escaped, place) ← word mark fuel place
                some (meant :: more, escaped, place)
          else
            let (more, escaped, place) ← word mark fuel (place.skip 1)
            some (c :: more, escaped, place)

/-- Words and gaps up to the closing mark. -/
def words (mark : Char) : Nat → Place → Option (List Char × Place)
  | 0, _ => none
  | fuel + 1, place => do
      if place.atBoundary || place.rest.isEmpty then none
      else
        let (chars, escaped, place) ← word mark fuel place
        if place.nextIs mark then some (chars, place)
        else
          let (gap, place) ← Gap.read 0 fuel (.empty escaped) place
          let (more, place) ← words mark fuel place
          some (chars ++ gap.folded ++ more, place)

/-- Reads a scalar that is in front between two marks. -/
def read (mark : Char) (place : Place) : Option (String × Place) := do
  let (chars, place) ← words mark (place.left + 1) (place.skip 1)
  some (String.ofList chars, place.skip 1)

end Rehearsal.Yaml.Quoted

import Rehearsal.Yaml.Place

/-!
Scalars without quotation marks.

They end before a comment, before a colon that a blank follows, between brackets and braces before
any of those, and in a block before the first line that is not indented far enough.
-/

namespace Rehearsal.Yaml.Plain

/-- Characters that end a scalar between brackets and braces. -/
def flowMarks : List Char := [',', '[', ']', '\x7b', '\x7d']

/-- Characters up to the next blank, line break or end of the scalar.  Between brackets and braces a
colon must not stand right before one of their marks. -/
def word (inFlow : Bool) : Nat → Place → Option (List Char × Place)
  | 0, _ => none
  | fuel + 1, place =>
      match place.next? with
      | none => some ([], place)
      | some c => do
          let behind := place.peek? 1
          if isBlank c || isBreak c then some ([], place)
          else if inFlow && c == ':' && behind.any ('?' :: flowMarks).contains then none
          else if c == ':' && endsWord behind then some ([], place)
          else if inFlow && flowMarks.contains c then some ([], place)
          else
            let (more, place) ← word inFlow fuel (place.skip 1)
            some (c :: more, place)

/-- Words from behind a gap on.  The gap is dropped if no word follows it; the flag tells whether a
line break was among what was dropped. -/
def words (inFlow : Bool) (indent : Nat) : Nat → Gap → Place → Option (List Char × Bool × Place)
  | 0, _, _ => none
  | fuel + 1, gap, place => do
      if place.atBoundary || place.nextIs '#' then some ([], gap.broken, place)
      else
        let (chars, place) ← word inFlow fuel place
        if chars.isEmpty then some ([], gap.broken, place)
        else
          let chars := gap.folded ++ chars
          let (gap, place) ← Gap.read indent fuel (.empty false) place
          if !inFlow && place.column < indent then some (chars, gap.broken, place)
          else
            let (more, broken, place) ← words inFlow indent fuel gap place
            some (chars ++ more, broken, place)

/-- Reads a scalar in front whose lines must begin at the column `indent` or behind it, and tells
whether the text goes on at a new line. -/
def read (inFlow : Bool) (indent : Nat) (place : Place) : Option (String × Bool × Place) := do
  let (chars, broken, place) ← words inFlow indent (place.left + 2) (.empty false) place
  some (String.ofList chars, broken, place)

end Rehearsal.Yaml.Plain

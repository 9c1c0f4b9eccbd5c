import Rehearsal.Text.Digits
import Rehearsal.Yaml.Place
import Rehearsal.Yaml.Token

/-!
Names: anchors, aliases and tags, and the directives that give tags their handles.
-/

namespace Rehearsal.Yaml.Name

/-- The name of an anchor or alias, behind its indicator. -/
def anchor? (place : Place) : Option (String × Place) :=
  let (chars, place) := (place.skip 1).span isNameChar
  if chars.isEmpty then none
  else if endsWord place.next? ||
      place.next?.any ['?', ':', ',', ']', '\x7d', '%', '@', '\x60'].contains then
    some (String.ofList chars, place)
  else none

/-! ### Tags -/

/-- Characters of a tag; `verbatim` if it is given in full. -/
def isTagChar (verbatim : Bool) (c : Char) : Bool :=
  isNameChar c || ";/?:@&=+$.%!~*'()".toList.contains c ||
    (verbatim && [',', '[', ']'].contains c)

/-- A byte that is written as two hexadecimal digits behind a percent sign. -/
def byte? : List Char → Option (Nat × List Char)
  | '%' :: a :: b :: rest => (Text.hexNumber? [a, b]).map fun n => (n, rest)
  | _ => none

/-- Adds the bits of further bytes of a character to those of its first byte. -/
def trailing? : Nat → Nat → List Char → Option (Nat × List Char)
  | 0, bits, chars => some (bits, chars)
  | count + 1, bits, chars => do
      let (byte, rest) ← byte? chars
      if byte / 0x40 = 2 then trailing? count (0x40 * bits + byte % 0x40) rest else none

/-- A character that is written as its bytes in UTF-8. -/
def encoded? (chars : List Char) : Option (Char × List Char) := do
  let (byte, rest) ← byte? chars
  let (n, rest) ←
    if byte < 0x80 then some (byte, rest)
    else if byte / 0x20 = 6 then trailing? 1 (byte % 0x20) rest
    else if byte / 0x10 = 14 then trailing? 2 (byte % 0x10) rest
    else if byte / 0x8 = 30 then trailing? 3 (byte % 0x8) rest
    else none
  some (← Text.codePoint? n, rest)

/-- Replaces encoded characters by what they stand for. -/
def decode? : Nat → List Char → Option (List Char)
  | 0, _ => none
  | _, [] => some []
  | fuel + 1, '%' :: rest => do
      let (c, rest) ← encoded? ('%' :: rest)
      (decode? fuel rest).map (c :: ·)
  | fuel + 1, c :: rest => (decode? fuel rest).map (c :: ·)

/-- The characters of a tag in front. -/
def tagChars? (verbatim : Bool) (place : Place) : Option (List Char × Place) := do
  let (chars, place) := place.span (isTagChar verbatim)
  some (← decode? (chars.length + 1) chars, place)

/-- A handle in front: an exclamation mark, or a name between two of them.  A name without the
second mark is no handle. -/
def handle (place : Place) : List Char × Place :=
  let (chars, place) := (place.skip 1).span isNameChar
  if place.nextIs '!' then ('!' :: chars ++ ['!'], place.skip 1) else ('!' :: chars, place)

/-- A tag that is given in full, between angle brackets. -/
def fullTag? (place : Place) : Option (Token × Place) := do
  let (chars, place) ← tagChars? true (place.skip 2)
  if chars.isEmpty || !place.nextIs '>' then none
  else some (.tag "" (String.ofList chars), place.skip 1)

/-- A tag with a handle of its own, or with the simple one. -/
def shortTag? (place : Place) : Option (Token × Place) := do
  let (lead, behind) := handle place
  let (chars, place) ← tagChars? false behind
  if lead.length > 1 && lead.getLast? == some '!' then
    if chars.isEmpty then none else some (.tag (String.ofList lead) (String.ofList chars), place)
  else
    match lead.drop 1 ++ chars with
    | [] => some (.tag "" "!", place)
    | suffix => some (.tag "!" (String.ofList suffix), place)

def tag? (inFlow : Bool) (place : Place) : Option (Token × Place) := do
  let (token, place) ← if place.peek? 1 == some '<' then fullTag? place else shortTag? place
  if endsWord place.next? || (inFlow && place.nextIs ',') then some (token, place) else none

/-! ### Directives -/

/-- A number of a version, of up to nine digits. -/
def versionNumber? (place : Place) : Option (Nat × Place) :=
  let (digits, place) := place.span Char.isDigit
  if digits.isEmpty || digits.length > 9 then none
  else some (digits.foldl (fun n c => 10 * n + (c.toNat - '0'.toNat)) 0, place)

def versionDirective? (place : Place) : Option (Token × Place) := do
  let (major, place) ← versionNumber? (place.skipWhile isBlank)
  if !place.nextIs '.' then none
  else
    let (minor, place) ← versionNumber? (place.skip 1)
    some (.version major minor, place)

def tagDirective? (place : Place) : Option (Token × Place) := do
  let place := place.skipWhile isBlank
  if !place.nextIs '!' then none
  else
    let (name, place) := handle place
    if name.length > 1 && name.getLast? != some '!' then none
    else if !place.next?.any isBlank then none
    else
      let (lead, place) ← tagChars? true (place.skipWhile isBlank)
      if lead.isEmpty || !endsWord place.next? then none
      else some (.handle (String.ofList name) (String.ofList lead), place)

/-- A directive in front, up to the end of its line. -/
def directive? (place : Place) : Option (Token × Place) := do
  let (name, place) := (place.skip 1).span isNameChar
  if !endsWord place.next? then none
  else
    let (token, place) ←
      match String.ofList name with
      | "YAML" => versionDirective? place
      | "TAG" => tagDirective? place
      | _ => none
    some (token, ← place.endLine?)

end Rehearsal.Yaml.Name

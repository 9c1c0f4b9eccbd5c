import Rehearsal.Unicode.EastAsian
import Rehearsal.Unicode.Newer
import Rehearsal.Unicode.Property

/-!
How many cells a text takes on a screen.

Most characters take one cell, ideographs and pictures two, and marks none.  Some characters run
together with those behind them: the parts of a joined picture, a picture and its skin tone, a lam
and an alef.  So a text is measured from its end, and what has been passed already is summed up as
far as it bears on the character before.
-/

namespace Rehearsal.Text

open Unicode

/-- What stands behind a place. -/
inductive Follower where
  | other
  | lineFeed
  | skinTone
  /-- A letter of a country's code; two of them are shown as a flag. -/
  | flagLetter
  | flagLetters
  | picture
  /-- A joiner and a picture. -/
  | joinedPicture
  /-- The frame of a key, a joiner and a picture. -/
  | joinedKeycap
  /-- Letters of countries' codes, a joiner and a picture. -/
  | joinedFlagLetters (count : Nat)
  /-- The tags of a region up to their end, a joiner and a picture. -/
  | joinedTags (letters digits : Nat)
  | alef
  | lamed
  | ya
  /-- A vowel sign, a joiner and a ya. -/
  | vowelYa
  | tifinagh
  | boundTifinagh
  | tone
  | orkhonI
  | subscriptLetter
  | kiratE
  | kiratAi
  deriving DecidableEq, Repr

/-- The form that a selector asks of the character before it. -/
inductive Form where
  | picture
  | plain
  | broad
  deriving DecidableEq, Repr

/-- All that bears on the width of the character before; `joined` when a joiner stands between. -/
structure Behind where
  follower : Follower := .other
  joined : Bool := false
  form : Option Form := none
  deriving DecidableEq, Repr

namespace Follower

/-- Letters that run together with one before them, whatever selectors stand between. -/
def isLigature : Follower → Bool
  | .alef | .lamed | .ya | .vowelYa | .tifinagh | .boundTifinagh | .tone | .orkhonI
  | .subscriptLetter => true
  | _ => false

/-- The end of a picture that a joiner goes on with. -/
def isJoined : Follower → Bool
  | .joinedPicture | .joinedKeycap => true
  | _ => false

end Follower

namespace Behind

/-- A selector comes before all that.  It would part most things from the character before it. -/
def asking (behind : Behind) (form : Form) : Behind :=
  if behind.follower.isLigature || (form = .picture && behind.follower.isJoined) then
    { behind with form := some form }
  else { form := some form }

/-- Nothing came of what the selector asked for. -/
def unasked (behind : Behind) : Behind :=
  if behind.follower.isLigature then { behind with form := none } else {}

end Behind

/-! ### Single characters -/

/-- Characters that take no cell although they are neither marks nor invisible. -/
def otherWidthless : CharSet :=
  CharSet.ofLines [
    "605 70F 890-891 8E2 D4E 1160-11FF A8FA D7B0-D7C6 D7CB-D7FB 111C2-111C3 113D1 1193F 11941",
    "11A84-11A89 11D46 11F02"]

/-- Characters that take no cell. -/
def widthless : CharSet :=
  (CharSet.unions [Property.defaultIgnorable, Property.graphemeExtend, Newer.marks,
    otherWidthless]).diff (CharSet.parse "115F FF9E-FF9F")

def isFlagLetter (c : Char) : Bool :=
  0x1f1e6 ≤ c.toNat && c.toNat ≤ 0x1f1ff

def isSkinTone (c : Char) : Bool :=
  0x1f3fb ≤ c.toNat && c.toNat ≤ 0x1f3ff

/-- The cells of a character on its own. -/
def charWidth (c : Char) : Nat :=
  if c.toNat ≤ 0xa0 then 1
  else if c == '\u17a4' then 2
  else if c == '\u17d8' then 3
  else if widthless.contains c then 0
  else if EastAsian.wide.contains c || Newer.pictures.contains c || Newer.ideographs.contains c
  then 2
  else 1

/-- Pictures that can be asked to be shown as plain characters. -/
def plainablePictures : CharSet :=
  CharSet.ofLines [
    "231A-231B 23E9-23EC 23F0 23F3 25FD-25FE 2614-2615 2648-2653 267F 2693 26A1 26AA-26AB",
    "26BD-26BE 26C4-26C5 26CE 26D4 26EA 26F2-26F3 26F5 26FA 26FD 2705 270A-270B 2728 274C 274E",
    "2753-2755 2757 2795-2797 27B0 27BF 2B1B-2B1C 2B50 2B55 1F004 1F21A 1F22F 1F30D-1F30F 1F315",
    "1F31C 1F378 1F393 1F3A7 1F3AC-1F3AE 1F3C2 1F3C4 1F3C6 1F3CA 1F3E0 1F3ED 1F408 1F415 1F41F",
    "1F426 1F442 1F446-1F449 1F44D-1F44E 1F453 1F46A 1F47D 1F4A3 1F4B0 1F4B3 1F4BB 1F4BF 1F4CB",
    "1F4DA 1F4DF 1F4E4-1F4E6 1F4EA-1F4ED 1F4F7 1F4F9-1F4FB 1F508 1F50D 1F512-1F513 1F550-1F567",
    "1F610 1F687 1F68D 1F691 1F694 1F698 1F6AD 1F6B2 1F6B9-1F6BA 1F6BC"]

/-- Characters that a selector can turn into pictures. -/
def selectablePictures : CharSet :=
  (Property.emoji.diff Property.emojiPresentation).union plainablePictures

/-- Characters that one cell is enough for when they are asked to be plain; signs on a square keep
both cells. -/
def narrowable : CharSet :=
  plainablePictures.diff (CharSet.parse "1F200-1F2FF")

/-- Pictures that can take a skin tone. -/
def tintable : CharSet :=
  Property.emojiModifierBase.union (CharSet.parse "1FAF9-1FAFA")

def alefs : CharSet :=
  CharSet.parse "622-623 625 627 671-673 675 773-774 870-882"

def lams : CharSet :=
  CharSet.parse "644 6B5-6B8 76A 8A6 8C7"

def tifinaghConsonants : CharSet :=
  CharSet.parse "2D31-2D65 2D6F"

/-- Khmer letters that have a form below another letter. -/
def subscriptLetters : CharSet :=
  CharSet.ofLines [
    "1780-1782 1784-1787 1789-178C 178E-1793 1795-1798 179B-179D 17A0 17A2 17A7 17AB-17AC 17AF"]

/-- Marks and signs that letters are joined across. -/
def transparentMarks : CharSet :=
  ((Property.ofCategories [.nonspacingMark, .enclosingMark, .format]).union Newer.marks).diff
    (CharSet.parse "600-605 6DD 890-891 8E2 180E 200C-200D 2066-2069")

/-- Marks that may stand between a lam and an alef. -/
def isTransparentMark (c : Char) : Bool :=
  charWidth c == 0 && transparentMarks.contains c

/-- Invisible characters that may stand between the letters of a ligature. -/
def ligatureMarks : CharSet :=
  CharSet.parse "34F 17B4-17B5 180B-180D 180F 200D FE00-FE0F E0100-E01EF"

/-- What a character is to the one before it. -/
def Follower.ofChar (c : Char) : Follower :=
  if c.toNat ≤ 0xa0 then if c = '\n' then .lineFeed else .other
  else if isSkinTone c then .skinTone
  else if isFlagLetter c then .flagLetter
  else if Property.emojiPresentation.contains c || Newer.pictures.contains c then .picture
  else if alefs.contains c then .alef
  else if tifinaghConsonants.contains c then .tifinagh
  else if subscriptLetters.contains c then .subscriptLetter
  else if c = '\u05dc' then .lamed
  else if c = '\u1a10' then .ya
  else if c = '\ua4fc' || c = '\ua4fd' then .tone
  else if c.toNat = 0x10c03 then .orkhonI
  else if c.toNat = 0x16d67 then .kiratE
  else if c.toNat = 0x16d68 then .kiratAi
  else .other

/-- A character on its own, without regard to what stands behind it. -/
def alone (c : Char) : Int × Behind :=
  (charWidth c,
    match c with
    | '\ufe0f' => { form := some .picture }
    | '\ufe0e' => { form := some .plain }
    | '\ufe01' => { form := some .broad }
    | _ => { follower := .ofChar c })

/-! ### Characters that run together -/

/-- A tag of a region's code before the tags behind it: up to six letters or three digits, and the
digits may come before no more than four letters. -/
def tagBefore? (letters digits : Nat) (c : Char) : Option Follower :=
  if 0xe0061 ≤ c.toNat && c.toNat ≤ 0xe007a then
    if digits == 0 && letters < 6 then some (.joinedTags (letters + 1) 0) else none
  else if 0xe0030 ≤ c.toNat && c.toNat ≤ 0xe0039 then
    if digits == 0 && letters ≤ 4 then some (.joinedTags 0 1)
    else if digits == 1 || digits == 2 then some (.joinedTags 0 (digits + 1))
    else none
  else if c.toNat == 0x1f3f4 && (3 ≤ letters || digits == 3) then some .picture
  else none

/-- What a character adds to the width of those that it runs together with, and what it makes of
them; none if it stays on its own. -/
def fused? (c : Char) (follower : Follower) (joined : Bool) : Option (Int × Follower) :=
  match follower with
  | .alef =>
      if lams.contains c then some (0, .other)
      else if isTransparentMark c then some (0, .alef)
      else none
  | .lamed => if joined && c = '\u05d0' then some (0, .other) else none
  | .ya => if joined && c = '\u1a17' then some (0, .vowelYa) else none
  | .vowelYa => if c = '\u1a15' then some (0, .other) else none
  | .tifinagh =>
      if c = '\u2d7f' then some (1, .boundTifinagh)
      else if joined && tifinaghConsonants.contains c then some (0, .other)
      else none
  | .boundTifinagh => if tifinaghConsonants.contains c then some (-1, .other) else none
  | .tone => if 0xa4f8 ≤ c.toNat && c.toNat ≤ 0xa4fb then some (0, .other) else none
  | .orkhonI => if joined && c.toNat = 0x10c32 then some (0, .other) else none
  | .subscriptLetter => if c = '\u17d2' then some (-1, .other) else none
  | .kiratE =>
      if c.toNat = 0x16d63 || c.toNat = 0x16d69 then some (0, .other)
      else if c.toNat = 0x16d67 then some (0, .kiratAi)
      else if c.toNat = 0x16d68 then some (1, .kiratE)
      else none
  | .kiratAi => if c.toNat = 0x16d63 then some (0, .other) else none
  | .skinTone =>
      if tintable.contains c then some (0, .picture)
      else if c = '\u200d' then some (0, .joinedPicture)
      else none
  | .flagLetter => if isFlagLetter c then some (1, .flagLetters) else none
  | .flagLetters =>
      if isFlagLetter c then some (1, .flagLetters)
      else if c = '\u200d' then some (0, .joinedPicture)
      else none
  | .picture => if c = '\u200d' then some (0, .joinedPicture) else none
  | .joinedPicture =>
      if c = '\u20e3' then some (0, .joinedKeycap)
      else if isFlagLetter c then some (1, .joinedFlagLetters 1)
      else if isSkinTone c then some (0, .skinTone)
      else if c.toNat = 0xe007f then some (0, .joinedTags 0 0)
      else if Follower.ofChar c = .picture then some (0, .picture)
      else none
  | .joinedFlagLetters count =>
      if isFlagLetter c then
        some (if count % 2 = 0 then 3 else -1, .joinedFlagLetters (count + 1))
      else if c = '\u200d' && 1 < count then some (0, .joinedPicture)
      else none
  | .joinedTags letters digits => (tagBefore? letters digits c).map fun follower => (0, follower)
  | .joinedKeycap | .lineFeed | .other => none

/-- A character before what stands behind it, once the selector between them has had its say. -/
def unselected (c : Char) (behind : Behind) : Int × Behind :=
  if behind.follower.isLigature && behind.follower != .alef && ligatureMarks.contains c then
    (0, { behind with joined := behind.joined || c = '\u200d' })
  else
    match fused? c behind.follower behind.joined with
    | some (width, follower) => (width, { follower })
    | none => alone c

/-- A character beyond U+00A0 before what stands behind it. -/
def selected (c : Char) (behind : Behind) : Int × Behind :=
  match c with
  | '\ufe0f' => (0, behind.asking .picture)
  | '\ufe0e' => (0, behind.asking .plain)
  | '\ufe01' => (0, behind.asking .broad)
  | _ =>
      if behind.form = some .plain && narrowable.contains c then (1, {})
      else if behind.form = some .broad && ['‘', '’', '“', '”'].contains c then (2, {})
      else unselected c (if behind.form.isSome then behind.unasked else behind)

/-- What a character adds to the width, and all that bears on the one before it. -/
def measure (c : Char) (behind : Behind) : Int × Behind :=
  if behind.form = some .picture && selectablePictures.contains c then
    (if behind.follower.isJoined then 0 else 2, { follower := .picture })
  else
    let behind := if behind.form = some .picture then behind.unasked else behind
    if c.toNat ≤ 0xa0 then
      (if c = '\r' && behind.follower = .lineFeed then 0 else 1, { follower := .ofChar c })
    else selected c behind

/-- The cells of a text. -/
def width (text : List Char) : Nat :=
  (text.foldr (fun c (sum, behind) =>
    let (cells, behind) := measure c behind
    (sum + cells, behind)) ((0 : Int), ({} : Behind))).1.toNat

end Rehearsal.Text

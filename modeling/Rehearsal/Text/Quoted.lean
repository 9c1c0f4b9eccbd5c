import Rehearsal.Unicode.Newer
import Rehearsal.Unicode.Property

/-!
A text between quotation marks, written so that all of it can be seen.

Quotation marks and backslashes take a backslash, and whatever would not show (controls, blanks
other than the space, characters without a category, marks that would join the one before) is
written by its code point.
-/

namespace Rehearsal.Text

open Unicode

/-- Characters that leave no ink of their own. -/
def hiddenChars : CharSet :=
  (CharSet.unions [Property.ofCategories [.control, .format, .privateUse, .unassigned,
    .lineSeparator, .paragraphSeparator, .spaceSeparator],
    Property.defaultIgnorable]).diff Newer.all

/-- Characters that would join the one before them.  The halfwidth marks of voice stand alone. -/
def joiningChars : CharSet :=
  (Property.graphemeExtend.union Newer.marks).diff (CharSet.parse "FF9E-FF9F")

/-- A code point in hexadecimal digits. -/
def codePoint (c : Char) : List Char :=
  ['\\', 'u', '\x7b'] ++ Nat.toDigits 16 c.toNat ++ ['\x7d']

def revealed (c : Char) : List Char :=
  if c = '\x00' then ['\\', '0']
  else if c = '\t' then ['\\', 't']
  else if c = '\r' then ['\\', 'r']
  else if c = '\n' then ['\\', 'n']
  else if c = '\x22' then ['\\', '\x22']
  else if c = '\\' then ['\\', '\\']
  else if 0x20 ≤ c.toNat && c.toNat < 0x7f then [c]
  else if joiningChars.contains c || hiddenChars.contains c then codePoint c
  else [c]

/-- The text with quotation marks around it and nothing hidden. -/
def quoted (text : String) : String :=
  String.ofList ('\x22' :: (text.toList.flatMap revealed ++ ['\x22']))

end Rehearsal.Text

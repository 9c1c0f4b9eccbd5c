/-!
Texts that stand in other texts, and texts in which nothing stands.

White space is meant in the sense of the Unicode property of that name.
-/

namespace Rehearsal.Text

/-- Whether `text` has `fragment` in it; the empty fragment is in every text. -/
def contains (text fragment : String) : Bool :=
  @decide (fragment.toList <:+: text.toList) (List.instDecidableIsInfixOfDecidableEq _ _)

theorem contains_iff {text fragment : String} :
    contains text fragment = true ↔ fragment.toList <:+: text.toList :=
  @decide_eq_true_iff _ (List.instDecidableIsInfixOfDecidableEq _ _)

/-- The characters with the property White_Space. -/
def isBlankChar (c : Char) : Bool :=
  let n := c.toNat
  (0x09 ≤ n && n ≤ 0x0d) || n == 0x20 || n == 0x85 || n == 0xa0 || n == 0x1680 ||
    (0x2000 ≤ n && n ≤ 0x200a) || n == 0x2028 || n == 0x2029 || n == 0x202f || n == 0x205f ||
    n == 0x3000

/-- Nothing is left of the text once white space is taken off its ends. -/
def isBlank (text : String) : Bool :=
  text.toList.all isBlankChar

end Rehearsal.Text

import Rehearsal.Pattern.Fault

/-!
Patterns as they are written.

Flags are part of the expression here: they hold from where they stand to the end of the group.
-/

namespace Rehearsal.Pattern

inductive Flag where
  | ignoreCase
  | multiLine
  | dotMatchesNewLine
  | swapGreed
  | unicode
  | crlf
  | verbose
  deriving DecidableEq, Repr

/-- Flags that are switched on, and off behind the hyphen. -/
structure FlagChange where
  on : List Flag
  off : List Flag
  deriving Repr, Inhabited

/-- What a change says about one flag. -/
def FlagChange.state (change : FlagChange) (flag : Flag) : Option Bool :=
  if change.on.contains flag then some true
  else if change.off.contains flag then some false
  else none

/-- A condition on the characters before and behind a place. -/
inductive Assertion where
  | lineStart
  | lineEnd
  | textStart
  | textEnd
  | wordBoundary
  | notWordBoundary
  | wordStart
  | wordEnd
  | wordStartHalf
  | wordEndHalf
  deriving DecidableEq, Repr

/-- The classes of one letter, as in `\d`. -/
inductive PerlClass where
  | digit
  | space
  | word
  deriving DecidableEq, Repr

/-- A class between brackets and colons. -/
inductive AsciiClass where
  | alnum | alpha | ascii | blank | cntrl | digit | graph | lower | print | punct | space | upper
  | word | xdigit
  deriving DecidableEq, Repr

/-- The name of a property, and the value that it is to have or not to have. -/
inductive PropertyName where
  | named (name : String)
  | valued (name : String) (value : String) (equal : Bool)
  deriving DecidableEq, Repr

inductive SetOperator where
  | intersection
  | difference
  | symmetricDifference
  deriving DecidableEq, Repr

/-- One end of a range. -/
structure ClassBound where
  span : Span
  c : Char
  byte : Bool
  deriving DecidableEq, Repr, Inhabited

/-- What stands between the brackets of a class. -/
inductive ClassSet where
  | literal (span : Span) (c : Char) (byte : Bool)
  | range (span : Span) (first last : ClassBound)
  | ascii (span : Span) (name : AsciiClass) (negated : Bool)
  | perl (span : Span) (name : PerlClass) (negated : Bool)
  | property (span : Span) (name : PropertyName) (negated : Bool)
  | bracketed (span : Span) (negated : Bool) (set : ClassSet)
  | union (span : Span) (items : List ClassSet)
  | combined (span : Span) (operator : SetOperator) (left right : ClassSet)
  deriving Repr, Inhabited

def ClassSet.span : ClassSet → Span
  | .literal span .. | .range span .. | .ascii span .. | .perl span .. | .property span ..
  | .bracketed span .. | .union span .. | .combined span .. => span

inductive Expr where
  | empty
  | flags (change : FlagChange)
  /-- A character; `byte` when it was written as a byte in two hexadecimal digits. -/
  | literal (span : Span) (c : Char) (byte : Bool)
  | dot (span : Span)
  | assertion (span : Span) (kind : Assertion)
  | perl (span : Span) (name : PerlClass) (negated : Bool)
  | property (span : Span) (name : PropertyName) (negated : Bool)
  | bracketed (span : Span) (negated : Bool) (set : ClassSet)
  /-- A repetition; `short` when it is written to take as little as it can. -/
  | repetition (span : Span) (least : Nat) (most : Option Nat) (short : Bool) (body : Expr)
  | group (span : Span) (captures : Bool) (change : FlagChange) (body : Expr)
  | alternation (span : Span) (branches : List Expr)
  | concat (span : Span) (parts : List Expr)
  deriving Repr, Inhabited

/-- Where an expression stands; the empty one and flags have no place of their own. -/
def Expr.span : Expr → Span
  | .empty | .flags _ => ⟨0, 0⟩
  | .literal span .. | .dot span | .assertion span .. | .perl span .. | .property span ..
  | .bracketed span .. | .repetition span .. | .group span .. | .alternation span ..
  | .concat span .. => span

end Rehearsal.Pattern

import Rehearsal.Pattern.Parse
import Rehearsal.Pattern.Regex

/-!
From a pattern as it is written to what it means.

Flags take effect from where they stand, go on into the next branch, and end with their group.
Without the flag for Unicode a pattern speaks of bytes, and whatever could match half a character is
refused.
-/

namespace Rehearsal.Pattern

open Unicode

/-- The flags that hold at a place. -/
structure Flags where
  ignoreCase : Bool := false
  multiLine : Bool := false
  dotMatchesNewLine : Bool := false
  swapGreed : Bool := false
  unicode : Bool := true
  crlf : Bool := false
  deriving DecidableEq, Repr

def Flags.after (flags : Flags) (change : FlagChange) : Flags :=
  { ignoreCase := (change.state .ignoreCase).getD flags.ignoreCase
    multiLine := (change.state .multiLine).getD flags.multiLine
    dotMatchesNewLine := (change.state .dotMatchesNewLine).getD flags.dotMatchesNewLine
    swapGreed := (change.state .swapGreed).getD flags.swapGreed
    unicode := (change.state .unicode).getD flags.unicode
    crlf := (change.state .crlf).getD flags.crlf }

namespace Flags

def fail {α : Type} (cause : Cause) (span : Span) : Except Fault α :=
  .error { cause, span }

/-- The set, closed under case where case does not count. -/
def folded (flags : Flags) (set : CharSet) : CharSet :=
  if !flags.ignoreCase then set
  else if flags.unicode then foldCase set
  else foldAsciiCase set

/-- The set of a class, or its complement.  The complement of a set of bytes would have halves of
characters in it. -/
def negate (flags : Flags) (span : Span) (negated : Bool) (set : CharSet) : Except Fault CharSet :=
  if !negated then .ok set
  else if flags.unicode then .ok set.complement
  else fail .invalidUtf8 span

/-- A character as it is written, which must not be half of one. -/
def literal (flags : Flags) (span : Span) (c : Char) (byte : Bool) : Except Fault Char :=
  if !flags.unicode && byte && 0x80 ≤ c.toNat then fail .invalidUtf8 span else .ok c

/-- A character within a class. -/
def member (flags : Flags) (span : Span) (c : Char) (byte : Bool) : Except Fault Char := do
  let c ← flags.literal span c byte
  if !flags.unicode && 0x80 ≤ c.toNat then fail .unicodeNotAllowed span else .ok c

def perl (flags : Flags) (span : Span) (kind : PerlClass) (negated : Bool) :
    Except Fault CharSet :=
  flags.negate span negated (kind.chars flags.unicode)

def property (flags : Flags) (span : Span) (name : PropertyName) (negated : Bool) :
    Except Fault CharSet :=
  if !flags.unicode then fail .unicodeNotAllowed span
  else
    match name.chars with
    | .error cause => fail cause span
    | .ok set => flags.negate span negated (flags.folded set)

def combine : SetOperator → CharSet → CharSet → CharSet
  | .intersection => CharSet.inter
  | .difference => CharSet.diff
  | .symmetricDifference => CharSet.symmDiff

mutual

/-- The characters that stand between the brackets of a class. -/
def set (flags : Flags) : ClassSet → Except Fault CharSet
  | .literal span c byte => do return CharSet.single (← flags.member span c byte)
  | .range _ first last => do
      let low ← flags.member first.span first.c first.byte
      let high ← flags.member last.span last.c last.byte
      return CharSet.range low high
  | .ascii span name negated => flags.negate span negated (flags.folded name.chars)
  | .perl span name negated => flags.perl span name negated
  | .property span name negated => flags.property span name negated
  | .bracketed span negated inner => do
      flags.negate span negated (flags.folded (← flags.set inner))
  | .union _ items => flags.sets items
  | .combined _ operator left right => do
      let left ← flags.set left
      let right ← flags.set right
      return combine operator (flags.folded left) (flags.folded right)

/-- What the items of a class have together. -/
def sets (flags : Flags) : List ClassSet → Except Fault CharSet
  | [] => .ok CharSet.empty
  | item :: rest => do
      let first ← flags.set item
      let others ← flags.sets rest
      return first.union others

end

/-- What the dot matches. -/
def dot (flags : Flags) (span : Span) : Except Fault CharSet :=
  if !flags.unicode then fail .invalidUtf8 span
  else if flags.dotMatchesNewLine then .ok CharSet.full
  else if flags.crlf then .ok (CharSet.parse "A D").complement
  else .ok (CharSet.parse "A").complement

def look (flags : Flags) : Assertion → Look
  | .lineStart => if flags.multiLine then .lineStart flags.crlf else .textStart
  | .lineEnd => if flags.multiLine then .lineEnd flags.crlf else .textEnd
  | .textStart => .textStart
  | .textEnd => .textEnd
  | kind => .word kind flags.unicode

end Flags

mutual

/-- The meaning of an expression under the flags before it, and the flags behind it. -/
def Expr.meaning (flags : Flags) : Expr → Except Fault (Regex CharSet Look × Flags)
  | .empty => .ok (.seq [], flags)
  | .flags change => .ok (.seq [], flags.after change)
  | .literal span c byte => do
      let c ← flags.literal span c byte
      return (.chars (flags.folded (CharSet.single c)), flags)
  | .dot span => do return (.chars (← flags.dot span), flags)
  | .assertion _ kind => .ok (.look (flags.look kind), flags)
  | .perl span name negated => do return (.chars (← flags.perl span name negated), flags)
  | .property span name negated => do
      return (.chars (← flags.property span name negated), flags)
  | .bracketed span negated set => do
      let chars ← flags.set set
      return (.chars (← flags.negate span negated (flags.folded chars)), flags)
  | .repetition _ least most short body => do
      let (regex, after) ← body.meaning flags
      return (.repeated least most (short != after.swapGreed) regex, after)
  | .group _ captures change body => do
      let (regex, _) ← body.meaning (flags.after change)
      return (if captures then .capture regex else regex, flags)
  | .alternation _ branches => do
      let (regexes, flags) ← Expr.meanings flags branches
      return (.alt regexes, flags)
  | .concat _ parts => do
      let (regexes, flags) ← Expr.meanings flags parts
      return (.seq regexes, flags)

/-- The meanings of expressions, each under the flags that the one before it leaves. -/
def Expr.meanings (flags : Flags) :
    List Expr → Except Fault (List (Regex CharSet Look) × Flags)
  | [] => .ok ([], flags)
  | expr :: rest => do
      let (regex, flags) ← expr.meaning flags
      let (regexes, flags) ← Expr.meanings flags rest
      return (regex :: regexes, flags)

end

end Rehearsal.Pattern

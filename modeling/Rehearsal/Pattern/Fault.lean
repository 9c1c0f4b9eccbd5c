import Rehearsal.Text.Lines

/-!
What can be wrong with a pattern, and how it is shown: the pattern with carets below the place, and
the cause on a line of its own.
-/

namespace Rehearsal.Pattern

/-- The characters of a pattern from one place up to another. -/
structure Span where
  start : Nat
  stop : Nat
  deriving DecidableEq, Repr, Inhabited

inductive Cause where
  | classEscapeInvalid
  | classRangeInvalid
  | classRangeLiteral
  | classUnclosed
  | countEmpty
  | countInvalid
  | countTooLarge
  | countUnclosed
  | escapeEnds
  | escapeUnrecognized
  | flagDangling
  | flagDuplicate
  | flagEnds
  | flagNegatedTwice
  | flagUnrecognized
  | groupNameDuplicate
  | groupNameEmpty
  | groupNameEnds
  | groupNameInvalid
  | groupUnclosed
  | groupUnopened
  | hexDigitInvalid
  | hexEmpty
  | hexInvalid
  | nestedTooDeep (limit : Nat)
  | repetitionMissing
  | boundaryEnds
  | boundaryUnclosed
  | boundaryUnrecognized
  | propertyInvalid
  | propertyNotFound
  | propertyValueNotFound
  | backreference
  | lookAround
  | unicodeNotAllowed
  | invalidUtf8
  deriving DecidableEq, Repr, Inhabited

def Cause.text : Cause → String
  | .classEscapeInvalid => "invalid escape sequence found in character class"
  | .classRangeInvalid => "invalid character class range, the start must be <= the end"
  | .classRangeLiteral => "invalid range boundary, must be a literal"
  | .classUnclosed => "unclosed character class"
  | .countEmpty => "repetition quantifier expects a valid decimal"
  | .countInvalid => "invalid repetition count range, the start must be <= the end"
  | .countTooLarge => "decimal literal invalid"
  | .countUnclosed => "unclosed counted repetition"
  | .escapeEnds => "incomplete escape sequence, reached end of pattern prematurely"
  | .escapeUnrecognized => "unrecognized escape sequence"
  | .flagDangling => "dangling flag negation operator"
  | .flagDuplicate => "duplicate flag"
  | .flagEnds => "expected flag but got end of regex"
  | .flagNegatedTwice => "flag negation operator repeated"
  | .flagUnrecognized => "unrecognized flag"
  | .groupNameDuplicate => "duplicate capture group name"
  | .groupNameEmpty => "empty capture group name"
  | .groupNameEnds => "unclosed capture group name"
  | .groupNameInvalid => "invalid capture group character"
  | .groupUnclosed => "unclosed group"
  | .groupUnopened => "unopened group"
  | .hexDigitInvalid => "invalid hexadecimal digit"
  | .hexEmpty => "hexadecimal literal empty"
  | .hexInvalid => "hexadecimal literal is not a Unicode scalar value"
  | .nestedTooDeep limit =>
      s!"exceed the maximum number of nested parentheses/brackets ({limit})"
  | .repetitionMissing => "repetition operator missing expression"
  | .boundaryEnds =>
      "found either the beginning of a special word boundary or a bounded repetition on a \\b " ++
      "with an opening brace, but no closing brace"
  | .boundaryUnclosed =>
      "special word boundary assertion is either unclosed or contains an invalid character"
  | .boundaryUnrecognized =>
      "unrecognized special word boundary assertion, valid choices are: start, end, start-half " ++
      "or end-half"
  | .propertyInvalid => "invalid Unicode character class"
  | .propertyNotFound => "Unicode property not found"
  | .propertyValueNotFound => "Unicode property value not found"
  | .backreference => "backreferences are not supported"
  | .lookAround => "look-around, including look-ahead and look-behind, is not supported"
  | .unicodeNotAllowed => "Unicode not allowed here"
  | .invalidUtf8 => "pattern can match invalid UTF-8"

/-- A cause at a place; `other` is a second place that has to do with it. -/
structure Fault where
  cause : Cause
  span : Span
  other : Option Span := none
  deriving DecidableEq, Repr, Inhabited

/-- Line and column of a place, both from one. -/
def lineAndColumn (pattern : List Char) (place : Nat) : Nat × Nat :=
  let before := pattern.take place
  let breaks := before.countP (· == '\n')
  let lead := (before.reverse.takeWhile (· != '\n')).length
  (breaks + 1, lead + 1)

/-- Carets from one column to another, at least one. -/
def carets (first last : Nat) : List Char :=
  List.replicate (max 1 (last - first)) '^'

/-- The carets of a line for its columns in ascending order; `column` is where the line stands. -/
def caretLine (column : Nat) : List (Nat × Nat) → List Char
  | [] => []
  | (first, last) :: rest =>
      let marks := carets first last
      List.replicate (first - column) ' ' ++ marks ++
        caretLine (max first column + marks.length) rest

def padLeft (width : Nat) (text : String) : String :=
  String.ofList (List.replicate (width - text.length) ' ') ++ text

namespace Fault

def spans (fault : Fault) : List Span :=
  (fault.span :: fault.other.toList).mergeSort fun a b =>
    a.start < b.start || (a.start == b.start && a.stop ≤ b.stop)

/-- The columns that are marked in a line. -/
def marksIn (fault : Fault) (pattern : List Char) (line : Nat) : List (Nat × Nat) :=
  fault.spans.filterMap fun span =>
    let (first, column) := lineAndColumn pattern span.start
    let (last, lastColumn) := lineAndColumn pattern span.stop
    if first == line && last == line then some (column, lastColumn) else none

/-- The lines of the pattern, each with its carets below; `width` is that of the line numbers, zero
when there are none. -/
def notated (fault : Fault) (pattern : String) (width : Nat) : String :=
  String.join <| (Text.lines pattern).zipIdx.map fun (line, n) =>
    let label := if width == 0 then "    " else padLeft width (toString (n + 1)) ++ ": "
    let marks := fault.marksIn pattern.toList (n + 1)
    let below :=
      if marks.isEmpty then ""
      else padLeft label.length "" ++ String.ofList (caretLine 1 marks) ++ "\n"
    label ++ line ++ "\n" ++ below

/-- The spans over more than one line, in words. -/
def acrossLines (fault : Fault) (pattern : List Char) : List String :=
  fault.spans.filterMap fun span =>
    let (first, column) := lineAndColumn pattern span.start
    let (last, lastColumn) := lineAndColumn pattern span.stop
    if first == last then none
    else some (s!"on line {first} (column {column}) through line {last} " ++
      s!"(column {lastColumn - 1})")

def message (fault : Fault) (pattern : String) : String :=
  if pattern.toList.contains '\n' then
    let divider := String.ofList (List.replicate 79 '~') ++ "\n"
    let count := (Text.lines pattern).length +
      (if pattern.toList.getLast? == some '\n' then 1 else 0)
    let width := if count ≤ 1 then 0 else (toString count).length
    let notes := fault.acrossLines pattern.toList
    "regex parse error:\n" ++ divider ++ fault.notated pattern width ++ divider ++
      (if notes.isEmpty then "" else "\n".intercalate notes ++ "\n") ++
      "error: " ++ fault.cause.text
  else
    "regex parse error:\n" ++ fault.notated pattern 0 ++ "error: " ++ fault.cause.text

end Fault

end Rehearsal.Pattern

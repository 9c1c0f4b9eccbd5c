import Rehearsal.Pattern.Cursor
import Rehearsal.Pattern.Expr
import Rehearsal.Text.Digits

/-!
Escapes: what stands behind a backslash, within classes and outside of them.
-/

namespace Rehearsal.Pattern.Reading

/-- A given number of hexadecimal digits. -/
def hexDigits (first : Bool) : Nat → Reading (List Char)
  | 0 => return []
  | count + 1 => do
      if !first then
        if !(← advanceFar) then failBefore .escapeEnds
      match ← peek? with
      | some c =>
          if Text.isHexDigit c then return c :: (← hexDigits false count)
          else failHere .hexDigitInvalid
      | none => failBefore .escapeEnds

/-- A code point in `count` digits, or between braces.  A code point in two digits counts as a
byte where bytes are asked for. -/
def codePoint (start count : Nat) : Reading Expr := do
  if !(← advanceFar) then failBefore .escapeEnds
  let first ← place
  if ← nextIs '\x7b' then
    let _ ← advanceFar
    let digits ← gatherAll Text.isHexDigit
    if ← atEnd then fail .escapeEnds first (← place)
    if !(← nextIs '\x7d') then failHere .hexDigitInvalid
    let last ← place
    let _ ← advanceFar
    if digits.isEmpty then fail .hexEmpty first (← place)
    match Text.charOfHex? digits with
    | some c => return .literal ⟨start, ← place⟩ c false
    | none => fail .hexInvalid (first + 1) last
  else
    let digits ← hexDigits true count
    let _ ← advanceFar
    match Text.charOfHex? digits with
    | some c => return .literal ⟨start, ← place⟩ c (count == 2)
    | none => fail .hexInvalid first (← place)

/-- The text up to a mark, and from behind it on. -/
def splitOnce (mark : List Char) : List Char → Option (List Char × List Char)
  | [] => none
  | c :: rest =>
      if mark.isPrefixOf (c :: rest) then some ([], (c :: rest).drop mark.length)
      else (splitOnce mark rest).map fun (before, after) => (c :: before, after)

/-- The property that the text between the braces asks for.  Of the three marks between name and
value, the one that denies comes first. -/
def propertyName (content : List Char) : PropertyName :=
  match splitOnce ['!', '='] content with
  | some (name, value) => .valued (String.ofList name) (String.ofList value) false
  | none =>
      match (splitOnce [':'] content).or (splitOnce ['='] content) with
      | some (name, value) => .valued (String.ofList name) (String.ofList value) true
      | none => .named (String.ofList content)

/-- A property by a letter, or by a name between braces. -/
def property (start : Nat) (negated : Bool) : Reading Expr := do
  if !(← advanceFar) then failBefore .escapeEnds
  match ← peek? with
  | some '\x7b' =>
      let _ ← advanceFar
      let content ← gatherAll (· != '\x7d')
      if ← atEnd then failBefore .escapeEnds
      let _ ← advance
      return .property ⟨start, ← place⟩ (propertyName content) negated
  | some '\\' => failHere .propertyInvalid
  | some c =>
      let _ ← advanceFar
      return .property ⟨start, ← place⟩ (.named (String.singleton c)) negated
  | none => failBefore .escapeEnds

/-- Characters that have a meaning of their own in patterns. -/
def isMeta (c : Char) : Bool :=
  "\\.+*?()|[]\x7b\x7d^$#&-~".toList.contains c

/-- Characters that may be escaped without need. -/
def mayBeEscaped (c : Char) : Bool :=
  c.toNat < 0x80 && !c.isAlphanum && c != '<' && c != '>'

def boundaryNames : List (String × Assertion) :=
  [("start", .wordStart), ("end", .wordEnd), ("start-half", .wordStartHalf),
    ("end-half", .wordEndHalf)]

/-- The name of a word boundary between braces.  What is no name is left to be read as a count of
repetitions. -/
def boundaryName? (start : Nat) : Reading (Option Assertion) := do
  let before ← get
  if !(← advanceFar) then fail .boundaryEnds start (← place)
  let first ← place
  let isNameChar := fun (c : Char) => c.isAlpha || c == '-'
  if ((← peek?).map isNameChar).getD false then
    let name ← gatherAll isNameChar
    if !(← nextIs '\x7d') then fail .boundaryUnclosed before.place (← place)
    let last ← place
    let _ ← advance
    match boundaryNames.lookup (String.ofList name) with
    | some kind => return some kind
    | none => fail .boundaryUnrecognized first last
  else
    set before
    return none

def letterEscapes : List (Char × Char) :=
  [('a', '\x07'), ('f', '\x0c'), ('t', '\t'), ('n', '\n'), ('r', '\r'), ('v', '\x0b')]

def assertionEscapes : List (Char × Assertion) :=
  [('A', .textStart), ('z', .textEnd), ('B', .notWordBoundary), ('<', .wordStart),
    ('>', .wordEnd)]

def classEscapes : List (Char × (PerlClass × Bool)) :=
  [('d', (.digit, false)), ('s', (.space, false)), ('w', (.word, false)),
    ('D', (.digit, true)), ('S', (.space, true)), ('W', (.word, true))]

/-- An escape of one character. -/
def simpleEscape (start : Nat) (c : Char) : Reading Expr := do
  let _ ← advance
  let span : Span := ⟨start, ← place⟩
  if isMeta c || mayBeEscaped c then return .literal span c false
  match letterEscapes.lookup c with
  | some meant => return .literal span meant false
  | none =>
  match assertionEscapes.lookup c with
  | some kind => return .assertion span kind
  | none =>
  if c == 'b' then
    if ← nextIs '\x7b' then
      match ← boundaryName? start with
      | some kind => return .assertion ⟨start, ← place⟩ kind
      | none => return .assertion span .wordBoundary
    else
      return .assertion span .wordBoundary
  else
    fail .escapeUnrecognized span.start span.stop

/-- An escape, from its backslash on. -/
def escape : Reading Expr := do
  let start ← place
  if !(← advance) then fail .escapeEnds start (← place)
  match ← peek? with
  | none => fail .escapeEnds start (← place)
  | some c =>
      if c.isDigit then fail .backreference start ((← place) + 1)
      else if c == 'x' then codePoint start 2
      else if c == 'u' then codePoint start 4
      else if c == 'U' then codePoint start 8
      else if c == 'p' || c == 'P' then property start (c == 'P')
      else
        match classEscapes.lookup c with
        | some (kind, negated) =>
            let _ ← advance
            return .perl ⟨start, ← place⟩ kind negated
        | none => simpleEscape start c

end Rehearsal.Pattern.Reading

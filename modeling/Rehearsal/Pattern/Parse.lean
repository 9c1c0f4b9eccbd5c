import Rehearsal.Pattern.Escape
import Rehearsal.Pattern.Property
import Rehearsal.Unicode.Newer

/-!
Patterns read from text.

Groups and classes are read by recursive descent.  The fuel is the length of the pattern, of which
every call takes at least one character or ends.
-/

namespace Rehearsal.Pattern

open Unicode

/-- Letters of any kind, the newest among them. -/
def letters : CharSet :=
  Property.alphabetic.union Newer.alphabetic

/-- Letters and numbers of any kind. -/
def alphanumeric : CharSet :=
  CharSet.unions [letters, Newer.digits, Property.ofCategories [.decimalNumber, .otherNumber]]

namespace Reading

/-- Closes an expression of parts in a row. -/
def concatenated (start stop : Nat) : List Expr → Expr
  | [] => .empty
  | [part] => part
  | parts => .concat ⟨start, stop⟩ parts

def alternated (start stop : Nat) : List Expr → Expr
  | [branch] => branch
  | branches => .alternation ⟨start, stop⟩ branches

/-! ### Classes -/

def asciiNames : List (String × AsciiClass) :=
  [("alnum", .alnum), ("alpha", .alpha), ("ascii", .ascii), ("blank", .blank),
    ("cntrl", .cntrl), ("digit", .digit), ("graph", .graph), ("lower", .lower),
    ("print", .print), ("punct", .punct), ("space", .space), ("upper", .upper),
    ("word", .word), ("xdigit", .xdigit)]

/-- A class between `[:` and `:]`, if one stands here. -/
def asciiClass? : Reading (Option ClassSet) := do
  let cursor ← get
  let (negated, inner) : Bool × List Char :=
    match cursor.rest with
    | '[' :: ':' :: '^' :: rest => (true, rest)
    | '[' :: ':' :: rest => (false, rest)
    | _ => (false, [])
  let name := inner.takeWhile (· != ':')
  let behind := inner.dropWhile (· != ':')
  match behind, asciiNames.lookup (String.ofList name) with
  | ':' :: ']' :: rest, some kind =>
      let stop := cursor.place + (cursor.rest.length - rest.length)
      set { cursor with rest, place := stop }
      return some (.ascii ⟨cursor.place, stop⟩ kind negated)
  | _, _ => return none

/-- One member of a class: a character as it stands, or an escape. -/
def classMember : Reading Expr := do
  match ← peek? with
  | some '\\' => escape
  | some c =>
      let span ← here
      let _ ← advance
      return .literal span c false
  | none => failBefore .classUnclosed

/-- A member that stands for itself. -/
def asItem : Expr → Reading ClassSet
  | .literal span c byte => return .literal span c byte
  | .perl span kind negated => return .perl span kind negated
  | .property span name negated => return .property span name negated
  | other => fail .classEscapeInvalid other.span.start other.span.stop

/-- A member at one end of a range. -/
def asBound : Expr → Reading ClassBound
  | .literal span c byte => return ⟨span, c, byte⟩
  | other => fail .classRangeLiteral other.span.start other.span.stop

/-- A member or a range.  `opened` is where the class around it began. -/
def classItem (opened : Span) : Reading ClassSet := do
  let first ← classMember
  skipBlanks
  if ← atEnd then fail .classUnclosed opened.start opened.stop
  let behind ← peekFar?
  if !(← nextIs '-') || behind == some ']' || behind == some '-' then
    asItem first
  else
    if !(← advanceFar) then fail .classUnclosed opened.start opened.stop
    let last ← classMember
    let span : Span := ⟨first.span.start, last.span.stop⟩
    let low ← asBound first
    let high ← asBound last
    if low.c ≤ high.c then return .range span low high
    else fail .classRangeInvalid span.start span.stop

/-- Items in a row, as they were gathered from `start` on. -/
def unionOf (start : Nat) : List ClassSet → ClassSet
  | [] => .union ⟨start, start⟩ []
  | [item] => item
  | first :: rest => .union ⟨first.span.start, (rest.getLastD first).span.stop⟩ (first :: rest)

def combine (operator : Option SetOperator) (left : ClassSet) (right : ClassSet) : ClassSet :=
  match operator with
  | none => right
  | some operator => .combined ⟨left.span.start, right.span.stop⟩ operator left right

/-- The hyphens that may open a class. -/
def leadingHyphens (opened : Nat) : Nat → Reading (List ClassSet)
  | 0 => return []
  | fuel + 1 => do
      if ← nextIs '-' then
        let span ← here
        if !(← advanceFar) then fail .classUnclosed opened opened
        return .literal span '-' false :: (← leadingHyphens opened fuel)
      else
        return []

/-- The opening part of a class: the bracket, the sign of negation, and what may only stand for
itself there. -/
def classOpening : Reading (Bool × List ClassSet) := do
  let start ← place
  if !(← advanceFar) then fail .classUnclosed start (← place)
  let negated ← nextIs '^'
  if negated then
    if !(← advanceFar) then fail .classUnclosed start (← place)
  let hyphens ← leadingHyphens start ((← get).rest.length + 1)
  if hyphens.isEmpty && (← nextIs ']') then
    let span ← here
    if !(← advanceFar) then fail .classUnclosed start (← place)
    return (negated, [.literal span ']' false])
  else
    return (negated, hyphens)

mutual

/-- A class, from its opening bracket on. -/
def bracketed : Nat → Reading (Span × Bool × ClassSet)
  | 0 => failBefore .classUnclosed
  | fuel + 1 => do
      let start ← place
      let (negated, items) ← classOpening
      let opened : Span := ⟨start, ← place⟩
      let set ← classBody fuel opened none default (← place) items
      return (⟨start, ← place⟩, negated, set)

/-- The rest of a class: `items` are those since the last operator, and `left` is what stood before
it. -/
def classBody : Nat → Span → Option SetOperator → ClassSet → Nat → List ClassSet →
    Reading ClassSet
  | 0, opened, _, _, _, _ => fail .classUnclosed opened.start opened.stop
  | fuel + 1, opened, operator, left, start, items => do
      skipBlanks
      if ← skipIf "&&" then
        let left := combine operator left (unionOf start items)
        classBody fuel opened (some .intersection) left (← place) []
      else if ← skipIf "--" then
        let left := combine operator left (unionOf start items)
        classBody fuel opened (some .difference) left (← place) []
      else if ← skipIf "~~" then
        let left := combine operator left (unionOf start items)
        classBody fuel opened (some .symmetricDifference) left (← place) []
      else
        match ← peek? with
        | none => fail .classUnclosed opened.start opened.stop
        | some ']' =>
            let _ ← advance
            return combine operator left (unionOf start items)
        | some '[' =>
            match ← asciiClass? with
            | some item => classBody fuel opened operator left start (items ++ [item])
            | none =>
                let (span, negated, set) ← bracketed fuel
                classBody fuel opened operator left start
                  (items ++ [.bracketed span negated set])
        | some _ =>
            let item ← classItem opened
            classBody fuel opened operator left start (items ++ [item])

end

/-! ### Repetitions -/

/-- The parts before a repetition, and the one that is repeated. -/
def repeated (parts : List Expr) : Reading (List Expr × Expr) := do
  match parts.getLast? with
  | none | some .empty | some (.flags _) => failBefore .repetitionMissing
  | some body => return (parts.dropLast, body)

/-- Passes over the mark of a repetition that takes as little as it can, and tells whether there is
one. -/
def takeShort (more : Bool) : Reading Bool := do
  if more && (← nextIs '?') then
    let _ ← advance
    return true
  else return false

/-- A repetition by a sign. -/
def signedRepetition (parts : List Expr) (least : Nat) (most : Option Nat) :
    Reading (List Expr) := do
  let (before, body) ← repeated parts
  let short ← takeShort (← advance)
  return before ++ [.repetition ⟨body.span.start, ← place⟩ least most short body]

/-- A number of at most 32 bits with blanks around it, or what is wrong with it. -/
def decimal : Reading (Except Fault Nat) := do
  let cursor ← get
  let blanks := (cursor.rest.takeWhile Text.isBlankChar).length
  set { cursor with rest := cursor.rest.drop blanks, place := cursor.place + blanks }
  let start ← place
  let digits ← gatherAll Char.isDigit
  let span : Span := ⟨start, ← place⟩
  let _ ← gatherAll Text.isBlankChar
  let value := digits.foldl (fun n c => 10 * n + (c.toNat - 48)) 0
  if digits.isEmpty then return .error { cause := .countEmpty, span }
  else if value < Nat.pow 2 32 then return .ok value
  else return .error { cause := .countTooLarge, span }

/-- The bounds between two braces. -/
def countBounds (start : Nat) : Reading (Nat × Option Nat) := do
  if !(← advanceFar) then fail .countUnclosed start (← place)
  let least ← decimal
  if ← atEnd then fail .countUnclosed start (← place)
  if ← nextIs ',' then
    if !(← advanceFar) then fail .countUnclosed start (← place)
    if ← nextIs '\x7d' then
      return (← liftExcept least, none)
    else
      let least ← liftExcept least
      let most ← liftExcept (← decimal)
      return (least, some most)
  else
    let least ← liftExcept least
    return (least, some least)
where
  /-- Fails where a number that is needed has a fault. -/
  liftExcept {α : Type} : Except Fault α → Reading α
    | .ok a => return a
    | .error fault => throw fault

/-- A repetition by numbers. -/
def countedRepetition (parts : List Expr) : Reading (List Expr) := do
  let start ← place
  let (before, body) ← repeated parts
  let (least, most) ← countBounds start
  if !(← nextIs '\x7d') then fail .countUnclosed start (← place)
  let short ← takeShort (← advanceFar)
  let stop ← place
  match most with
  | some most => if most < least then fail .countInvalid start stop
  | none => pure ()
  return before ++ [.repetition ⟨body.span.start, stop⟩ least most short body]

/-! ### Groups -/

def flagLetters : List (Char × Flag) :=
  [('i', .ignoreCase), ('m', .multiLine), ('s', .dotMatchesNewLine), ('U', .swapGreed),
    ('u', .unicode), ('R', .crlf), ('x', .verbose)]

/-- Fails because something stands here that stood before at `first`. -/
def failTwice {α : Type} (cause : Cause) (span first : Span) : Reading α :=
  throw { cause, span, other := some first }

/-- Flags up to the colon or the closing parenthesis.  `hyphen` is where the sign stood that
switches off, `seen` holds the flags with their places, and `dangling` says that the sign came
last. -/
def flags (hyphen : Option Span) (dangling : Bool) (seen : List (Flag × Span))
    (change : FlagChange) : Nat → Reading FlagChange
  | 0 => failBefore .flagEnds
  | fuel + 1 => do
      let span ← here
      match ← peek? with
      | none => failBefore .flagEnds
      | some c =>
          if c == ':' || c == ')' then
            match dangling, hyphen with
            | true, some span => fail .flagDangling span.start span.stop
            | _, _ => return change
          else if c == '-' then
            match hyphen with
            | some first => failTwice .flagNegatedTwice span first
            | none =>
                if !(← advance) then failBefore .flagEnds
                flags (some span) true seen change fuel
          else
            match flagLetters.lookup c with
            | none => fail .flagUnrecognized span.start span.stop
            | some flag =>
                match seen.lookup flag with
                | some first => failTwice .flagDuplicate span first
                | none =>
                    if !(← advance) then failBefore .flagEnds
                    let change : FlagChange :=
                      if hyphen.isSome then { change with off := change.off ++ [flag] }
                      else { change with on := change.on ++ [flag] }
                    flags hyphen false ((flag, span) :: seen) change fuel

def isNameStart (c : Char) : Bool :=
  c == '_' || letters.contains c

def isNameChar (c : Char) : Bool :=
  c == '_' || c == '.' || c == '[' || c == ']' || alphanumeric.contains c

/-- The characters of a capture name. -/
def nameChars (first : Bool) : Nat → Reading (List Char)
  | 0 => return []
  | fuel + 1 => do
      match ← peek? with
      | none | some '>' => return []
      | some c =>
          if if first then isNameStart c else isNameChar c then
            let _ ← advance
            return c :: (← nameChars false fuel)
          else
            failHere .groupNameInvalid

/-- A capture name, which must be new, up to its closing bracket. -/
def captureName : Reading Unit := do
  let start ← place
  let name := String.ofList (← nameChars true ((← get).rest.length + 1))
  let stop ← place
  if ← atEnd then failBefore .groupNameEnds
  let _ ← advance
  if name.isEmpty then fail .groupNameEmpty start start
  let cursor ← get
  match cursor.names.lookup name with
  | some first => failTwice .groupNameDuplicate ⟨start, stop⟩ first
  | none => set { cursor with names := (name, ⟨start, stop⟩) :: cursor.names }

/-- The head of a group: flags alone, or whether it captures and the flags that hold in it. -/
inductive GroupHead where
  | flags (change : FlagChange)
  | opened (captures : Bool) (change : FlagChange)

def noChange : FlagChange := ⟨[], []⟩

/-- The head of a group, from its parenthesis on. -/
def groupHead : Reading GroupHead := do
  let start ← place
  let _ ← advance
  skipBlanks
  for look in ["?=", "?!", "?<=", "?<!"] do
    if ← skipIf look then fail .lookAround start (← place)
  let inner ← place
  if (← skipIf "?P<") || (← skipIf "?<") then
    captureName
    return .opened true noChange
  else if ← skipIf "?" then
    if ← atEnd then fail .groupUnclosed start (start + 1)
    let change ← flags none false [] noChange ((← get).rest.length + 1)
    let closed ← nextIs ')'
    let _ ← advance
    if !closed then return .opened false change
    else if change.on.isEmpty && change.off.isEmpty then fail .repetitionMissing inner inner
    else return .flags change
  else
    return .opened true noChange

def setVerbose (change : FlagChange) : Reading Unit :=
  modify fun cursor => { cursor with verbose := (change.state .verbose).getD cursor.verbose }

/-- A part of one character, or an escape. -/
def primitive : Reading Expr := do
  let span ← here
  match ← peek? with
  | some '\\' => escape
  | some c =>
      let _ ← advance
      return if c == '.' then .dot span
        else if c == '^' then .assertion span .lineStart
        else if c == '$' then .assertion span .lineEnd
        else .literal span c false
  | none => return .empty

/-- The branches from here to the end of the group, or of the pattern.  `opened` is the parenthesis
of the group, `first` and `start` are where the alternation and the branch in hand begin, and
`parts` and `branches` what has been read of them. -/
def branches (opened : Option Span) : Nat → Nat → Nat → List Expr → List Expr → Reading Expr
  | 0, _, _, _, _ => failBefore .groupUnclosed
  | fuel + 1, first, start, done, parts => do
      skipBlanks
      match ← peek? with
      | none =>
          match opened with
          | some span => fail .groupUnclosed span.start span.stop
          | none =>
              let stop ← place
              return alternated first stop (done ++ [concatenated start stop parts])
      | some ')' =>
          match opened with
          | none => failHere .groupUnopened
          | some _ =>
              let stop ← place
              return alternated first stop (done ++ [concatenated start stop parts])
      | some '|' =>
          let branch := concatenated start (← place) parts
          let _ ← advance
          branches opened fuel first (← place) (done ++ [branch]) []
      | some '(' =>
          let span ← here
          match ← groupHead with
          | .flags change =>
              setVerbose change
              branches opened fuel first start done (parts ++ [.flags change])
          | .opened captures change =>
              let outer := (← get).verbose
              setVerbose change
              let inside ← place
              let body ← branches (some span) fuel inside inside [] []
              let _ ← advance
              modify fun cursor => { cursor with verbose := outer }
              let group := Expr.group ⟨span.start, ← place⟩ captures change body
              branches opened fuel first start done (parts ++ [group])
      | some '[' =>
          let (span, negated, set) ← bracketed ((← get).rest.length + 1)
          branches opened fuel first start done (parts ++ [.bracketed span negated set])
      | some '?' =>
          branches opened fuel first start done (← signedRepetition parts 0 (some 1))
      | some '*' => branches opened fuel first start done (← signedRepetition parts 0 none)
      | some '+' => branches opened fuel first start done (← signedRepetition parts 1 none)
      | some '\x7b' => branches opened fuel first start done (← countedRepetition parts)
      | some _ => branches opened fuel first start done (parts ++ [← primitive])

end Reading

/-! ### Depth -/

/-- How deep groups, classes and repetitions may be nested. -/
def deepest : Nat := 250

/-- One level more, as long as there is one. -/
def deeper (span : Span) (depth : Nat) : Except Fault Nat :=
  if depth < deepest then .ok (depth + 1)
  else .error { cause := .nestedTooDeep deepest, span }

mutual

def ClassSet.checkDepth (depth : Nat) : ClassSet → Except Fault Unit
  | .bracketed span _ set => do set.checkDepth (← deeper span depth)
  | .union span items => do
      if items.isEmpty then return ()
      ClassSet.checkDepths (← deeper span depth) items
  | .combined span _ left right => do
      let depth ← deeper span depth
      left.checkDepth depth
      right.checkDepth depth
  | _ => .ok ()

def ClassSet.checkDepths (depth : Nat) : List ClassSet → Except Fault Unit
  | [] => .ok ()
  | item :: rest => do
      item.checkDepth depth
      ClassSet.checkDepths depth rest

end

mutual

/-- Nothing is nested too deep.  Of several places the first one is reported. -/
def Expr.checkDepth (depth : Nat) : Expr → Except Fault Unit
  | .bracketed span _ set => do set.checkDepth (← deeper span depth)
  | .repetition span _ _ _ body => do body.checkDepth (← deeper span depth)
  | .group span _ _ body => do body.checkDepth (← deeper span depth)
  | .alternation span parts | .concat span parts => do
      Expr.checkDepths (← deeper span depth) parts
  | _ => .ok ()

def Expr.checkDepths (depth : Nat) : List Expr → Except Fault Unit
  | [] => .ok ()
  | part :: rest => do
      part.checkDepth depth
      Expr.checkDepths depth rest

end

/-- The expression that a pattern writes. -/
def Expr.parse (source : String) : Except Fault Expr := do
  let cursor : Cursor := { rest := source.toList, place := 0, verbose := false, names := [] }
  let (expr, _) ← (Reading.branches none (source.length + 1) 0 0 [] []).run cursor
  expr.checkDepth 0
  return expr

end Rehearsal.Pattern

import Rehearsal.Json.Value
import Rehearsal.Text.Digits

/-!
The parts that TOML texts are made of, apart from values: blanks, comments, strings and keys.

Each function takes what is in front of a text and returns it with what is left, or nothing when
something else stands there.
-/

namespace Rehearsal.Toml

abbrev Chars := List Char

def isBlank (c : Char) : Bool :=
  c == ' ' || c == '\t'

def skipBlanks (chars : Chars) : Chars :=
  chars.dropWhile isBlank

/-- A line end: a line feed, with or without a carriage return before it. -/
def newline? : Chars → Option Chars
  | '\n' :: rest => some rest
  | '\r' :: '\n' :: rest => some rest
  | _ => none

/-- Characters that may stand in strings and comments: the tab and everything that is no control. -/
def isPlain (c : Char) : Bool :=
  c == '\t' || (0x20 ≤ c.toNat && c.toNat != 0x7f)

def skipComment : Chars → Chars
  | '#' :: rest => rest.dropWhile isPlain
  | chars => chars

/-- Blanks, a comment, and the end of the line or of the text. -/
def lineEnd? (chars : Chars) : Option Chars :=
  match skipComment (skipBlanks chars) with
  | [] => some []
  | rest => newline? rest

/-- Blanks, comments and line ends.  A comment must be closed by a line end. -/
def skipLines : Nat → Chars → Option Chars
  | 0, chars => some chars
  | fuel + 1, chars =>
      match skipBlanks chars with
      | '#' :: rest =>
          match newline? (rest.dropWhile isPlain) with
          | some rest => skipLines fuel rest
          | none => none
      | rest =>
          match newline? rest with
          | some rest => skipLines fuel rest
          | none => some rest

/-! ### Strings -/

def escapes : List (Char × Char) :=
  [('b', '\x08'), ('t', '\t'), ('n', '\n'), ('f', '\x0c'), ('r', '\r'), ('\x22', '\x22'),
    ('\\', '\\')]

/-- The character of an escape, behind the backslash. -/
def escape? : Chars → Option (Char × Chars)
  | 'u' :: rest =>
      if rest.length < 4 then none
      else (Text.charOfHex? (rest.take 4)).map fun c => (c, rest.drop 4)
  | 'U' :: rest =>
      if rest.length < 8 then none
      else (Text.charOfHex? (rest.take 8)).map fun c => (c, rest.drop 8)
  | c :: rest => (escapes.lookup c).map fun meant => (meant, rest)
  | [] => none

/-- The rest of a string between quotation marks. -/
def basicString? : Nat → Chars → Option (Chars × Chars)
  | 0, _ => none
  | _, '\x22' :: rest => some ([], rest)
  | fuel + 1, '\\' :: rest => do
      let (c, rest) ← escape? rest
      let (more, rest) ← basicString? fuel rest
      some (c :: more, rest)
  | fuel + 1, c :: rest =>
      if isPlain c then (basicString? fuel rest).map fun (more, rest) => (c :: more, rest)
      else none
  | _, [] => none

/-- The rest of a string between apostrophes. -/
def literalString? : Chars → Option (Chars × Chars)
  | [] => none
  | c :: rest =>
      if c == '\x27' then some ([], rest)
      else if isPlain c then (literalString? rest).map fun (more, rest) => (c :: more, rest)
      else none

/-- A backslash at the end of a line takes the blanks and line ends behind it with it. -/
def continued? (chars : Chars) : Option Chars := do
  let rest ← newline? (skipBlanks chars)
  some (dropGap rest)
where
  /-- Drops blanks and line ends. -/
  dropGap : Chars → Chars
    | '\r' :: '\n' :: rest => dropGap rest
    | c :: rest => if isBlank c || c == '\n' then dropGap rest else c :: rest
    | [] => []

/-- The rest of a string over several lines.  Three marks in a row close it, and up to two more
before them belong to it.  Only between quotation marks does the backslash mean something. -/
def longString? (mark : Char) : Nat → Chars → Option (Chars × Chars)
  | 0, _ => none
  | fuel + 1, chars =>
      let marks := (chars.takeWhile (· == mark)).length
      if 3 ≤ marks then
        let own := min 2 (marks - 3)
        some (List.replicate own mark, chars.drop (own + 3))
      else
        match chars with
        | [] => none
        | '\r' :: '\n' :: rest =>
            (longString? mark fuel rest).map fun (more, rest) => ('\n' :: more, rest)
        | c :: rest =>
            if c == '\\' && mark == '\x22' then
              match continued? rest with
              | some rest => longString? mark fuel rest
              | none => do
                  let (meant, rest) ← escape? rest
                  let (more, rest) ← longString? mark fuel rest
                  some (meant :: more, rest)
            else if c == '\n' || isPlain c then
              (longString? mark fuel rest).map fun (more, rest) => (c :: more, rest)
            else none

/-- A string over several lines, without the line end right behind its opening marks. -/
def openLong? (mark : Char) (chars : Chars) : Option (String × Chars) :=
  let chars := (newline? chars).getD chars
  (longString? mark (chars.length + 1) chars).map fun (content, rest) =>
    (String.ofList content, rest)

/-- A string in one line. -/
def shortString? : Chars → Option (String × Chars)
  | '\x22' :: rest =>
      (basicString? (rest.length + 1) rest).map fun (content, rest) =>
        (String.ofList content, rest)
  | '\x27' :: rest =>
      (literalString? rest).map fun (content, rest) => (String.ofList content, rest)
  | _ => none

def string? : Chars → Option (String × Chars)
  | '\x22' :: '\x22' :: '\x22' :: rest => openLong? '\x22' rest
  | '\x27' :: '\x27' :: '\x27' :: rest => openLong? '\x27' rest
  | chars => shortString? chars

/-! ### Keys -/

def isBareKeyChar (c : Char) : Bool :=
  c.isAlphanum || c == '-' || c == '_'

def simpleKey? (chars : Chars) : Option (String × Chars) :=
  let bare := chars.takeWhile isBareKeyChar
  if bare.isEmpty then shortString? chars
  else some (String.ofList bare, chars.dropWhile isBareKeyChar)

/-- How many parts a key may have, and how deep values may be nested. -/
def depthLimit : Nat := 80

/-- The parts of a dotted key, with the blanks around it. -/
def dottedKey? : Nat → Chars → Option (List String × Chars)
  | 0, _ => none
  | fuel + 1, chars => do
      let (part, rest) ← simpleKey? (skipBlanks chars)
      match skipBlanks rest with
      | '.' :: rest =>
          let (parts, rest) ← dottedKey? fuel rest
          some (part :: parts, rest)
      | rest => some ([part], rest)

/-- The parts of a key; too many of them are refused. -/
def key? (chars : Chars) : Option (List String × Chars) := do
  let (parts, rest) ← dottedKey? (chars.length + 1) chars
  if parts.length < depthLimit then some (parts, rest) else none

end Rehearsal.Toml

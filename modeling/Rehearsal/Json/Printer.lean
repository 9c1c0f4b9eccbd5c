import Rehearsal.Json.Value

/-!
JSON values as text: `compact` without any blanks, `pretty` with two blanks for each level.

Only the quotation mark, the backslash and the control characters below U+0020 are escaped.
-/

namespace Rehearsal

def Number.text : Number → String
  | .integer value => toString value
  | .real value => value.compact

namespace Json

def hexDigit (n : Nat) : Char :=
  Nat.digitChar n

/-- How a character stands in a string literal. -/
def escaped (c : Char) : List Char :=
  if c = '\x22' then ['\\', '\x22']
  else if c = '\\' then ['\\', '\\']
  else if c.toNat < 0x20 then
    if c = '\n' then ['\\', 'n']
    else if c = '\t' then ['\\', 't']
    else if c = '\r' then ['\\', 'r']
    else if c = '\x08' then ['\\', 'b']
    else if c = '\x0c' then ['\\', 'f']
    else ['\\', 'u', '0', '0', hexDigit (c.toNat / 16), hexDigit (c.toNat % 16)]
  else [c]

/-- A string literal. -/
def quoted (content : String) : String :=
  String.ofList ('\x22' :: (content.toList.flatMap escaped ++ ['\x22']))

mutual

def compact : Json → String
  | .null => "null"
  | .bool true => "true"
  | .bool false => "false"
  | .number value => value.text
  | .text value => quoted value
  | .list items => "[" ++ ",".intercalate (compactItems items) ++ "]"
  | .object members => "\x7b" ++ ",".intercalate (compactMembers members) ++ "\x7d"

def compactItems : List Json → List String
  | [] => []
  | item :: rest => compact item :: compactItems rest

def compactMembers : List (String × Json) → List String
  | [] => []
  | (name, value) :: rest => (quoted name ++ ":" ++ compact value) :: compactMembers rest

end

/-- A line break and the blanks of a level. -/
def newLine (level : Nat) : String :=
  "\n" ++ String.ofList (List.replicate (2 * level) ' ')

/-- The parts on lines of their own between two brackets; the brackets alone when there are none. -/
def block (left right : String) (level : Nat) (parts : List String) : String :=
  if parts.isEmpty then
    left ++ right
  else
    left ++ newLine (level + 1) ++ ("," ++ newLine (level + 1)).intercalate parts ++
      newLine level ++ right

mutual

def prettyAt (level : Nat) : Json → String
  | .null => "null"
  | .bool true => "true"
  | .bool false => "false"
  | .number value => value.text
  | .text value => quoted value
  | .list items => block "[" "]" level (prettyItems (level + 1) items)
  | .object members => block "\x7b" "\x7d" level (prettyMembers (level + 1) members)

def prettyItems (level : Nat) : List Json → List String
  | [] => []
  | item :: rest => prettyAt level item :: prettyItems level rest

def prettyMembers (level : Nat) : List (String × Json) → List String
  | [] => []
  | (name, value) :: rest =>
      (quoted name ++ ": " ++ prettyAt level value) :: prettyMembers level rest

end

def pretty (value : Json) : String :=
  prettyAt 0 value

/-- A text as it is, and any other value as its compact text. -/
def shown : Json → String
  | .text value => value
  | value => value.compact

end Json

end Rehearsal

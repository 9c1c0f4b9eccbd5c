import Rehearsal.Source.Node
import Rehearsal.Text.Digits

/-!
What a scalar says.

An unquoted scalar without a tag is null, a boolean or a number if it is written like one, and a
text otherwise.  One of the core tags asks for one of these kinds.
-/

namespace Rehearsal.Yaml.Scalar

open Source

/-- A way to write numbers in another base than ten. -/
structure Base where
  /-- What comes before the digits. -/
  lead : List Char
  base : Nat

def bases : List Base :=
  [⟨['0', 'x'], 16⟩, ⟨['0', 'o'], 8⟩, ⟨['0', 'b'], 2⟩]

/-- The number that digits of a base write; there must be at least one. -/
def digits? (base : Nat) (chars : List Char) : Option Nat :=
  if chars.isEmpty then none
  else chars.foldlM (fun n c => do
    let digit ← Text.hexValue? c
    if digit < base then some (base * n + digit) else none) 0

/-- More than one decimal digit, the first of which is a zero.  That is a text. -/
def hasLeadingZero : List Char → Bool
  | '0' :: rest => !rest.isEmpty && rest.all Char.isDigit
  | _ => false

/-- A number from zero on, without a sign. -/
def natural? (chars : List Char) : Option Nat :=
  let based := bases.findSome? fun form =>
    if form.lead.isPrefixOf chars then digits? form.base (chars.drop form.lead.length) else none
  based.orElse fun _ => if hasLeadingZero chars then none else digits? 10 chars

def integer? (chars : List Char) : Option Int :=
  let (negative, rest) := Text.sign chars
  (natural? rest).map fun n => if negative then -(n : Int) else n

/-- An integer of up to 64 bits is a number; one of up to 128 bits is told apart from it, and a
wider one is none at all. -/
def ofInteger? (value : Int) : Option Atom :=
  if -0x8000000000000000 ≤ value && value < 0x10000000000000000 then
    some (.number (.integer value))
  else if -0x80000000000000000000000000000000 ≤ value &&
      value < 0x100000000000000000000000000000000 then
    some (.wideInteger value)
  else none

/-! ### Doubles -/

/-- An exponent at the end of a number: a letter `e`, perhaps a sign, and digits. -/
def exponent? : List Char → Option Int
  | [] => some 0
  | mark :: rest =>
      if mark == 'e' || mark == 'E' then
        let (negative, rest) := Text.sign rest
        (digits? 10 rest).map fun n => if negative then -(n : Int) else n
      else none

/-- The double nearest to decimal digits with perhaps a point and an exponent. -/
def decimal? (negative : Bool) (chars : List Char) : Option Binary64 := do
  let whole := chars.takeWhile Char.isDigit
  let rest := chars.dropWhile Char.isDigit
  let (fraction, rest) :=
    match rest with
    | '.' :: rest => (rest.takeWhile Char.isDigit, rest.dropWhile Char.isDigit)
    | rest => ([], rest)
  let value ← digits? 10 (whole ++ fraction)
  let exponent ← exponent? rest
  some (.ofDecimal negative value (exponent - fraction.length))

/-- A double: decimal digits that are not beyond every double, or one of the names for infinity and
for what is no number. -/
def real? (text : String) : Option Binary64 :=
  let (negative, chars) := Text.sign text.toList
  if [".inf", ".Inf", ".INF"].contains (String.ofList chars) then some (.infinite negative)
  else if [".nan", ".NaN", ".NAN"].contains text then some .nan
  else (decimal? negative chars).filter Binary64.isFinite

/-! ### Kinds -/

def isNull (text : String) : Bool :=
  ["null", "Null", "NULL", "~"].contains text

def bool? (text : String) : Option Bool :=
  if ["true", "True", "TRUE"].contains text then some true
  else if ["false", "False", "FALSE"].contains text then some false
  else none

def number? (text : String) : Option Atom :=
  (integer? text.toList).bind ofInteger?

/-- What an unquoted scalar says. -/
def plain (text : String) : Atom :=
  if text.isEmpty || isNull text then .null
  else
    let other :=
      if hasLeadingZero (Text.sign text.toList).2 then .text text
      else (real? text).elim (.text text) fun value => .number (.real value)
    (((bool? text).map Atom.bool).orElse fun _ => number? text).getD other

def coreTag (name : String) : String :=
  "tag:yaml.org,2002:" ++ name

/-- What a scalar says that should be of a certain kind. -/
def asked (text kind : String) (read : Option Atom) : Except Fault Atom :=
  match read with
  | some atom => .ok atom
  | none => .error (.invalidValue (.text text) kind)

/-- What a scalar says under a tag that is not the author's own. -/
def under (tag text : String) : Except Fault Atom :=
  if tag = coreTag "bool" then asked text "a boolean" ((bool? text).map .bool)
  else if tag = coreTag "int" then asked text "an integer" (number? text)
  else if tag = coreTag "float" then
    asked text "a float" ((real? text).map fun value => .number (.real value))
  else if tag = coreTag "null" then
    asked text "null" (if isNull text then some .null else none)
  else .ok (.text text)

/-- The author's own tag, without its exclamation mark unless it is that mark alone. -/
def ownTag? (tag : Option String) : Option String :=
  match tag.map String.toList with
  | some ['!'] => some "!"
  | some ('!' :: name) => some (String.ofList name)
  | _ => none

/-- A scalar as it stands in a text. -/
def node (tag : Option String) (isPlain : Bool) (text : String) : Node :=
  let words : Option Words := some { text, leftOut := isPlain && text.isEmpty }
  let own : Node := .scalar words (.ok (if isPlain then plain text else .text text))
  match ownTag? tag, tag with
  | some name, _ => .tagged name own
  | none, some tag => .scalar words (under tag text)
  | none, none => own

end Rehearsal.Yaml.Scalar

import Rehearsal.Pattern.Fault
import Rehearsal.Pattern.Expr
import Rehearsal.Unicode.Folding
import Rehearsal.Unicode.Segment
import Rehearsal.Unicode.Version

/-!
The characters behind the names of properties and classes.

Names are compared loosely: case, blanks, hyphens and underscores do not count, nor does a leading
`is`.
-/

namespace Rehearsal.Pattern

open Unicode

/-- A name without what does not count in it. -/
def looseName (name : String) : String :=
  let chars := name.toList
  let (lead, rest) : Bool × List Char :=
    match chars with
    | a :: b :: rest =>
        if (a == 'i' || a == 'I') && (b == 's' || b == 'S') then (true, rest) else (false, chars)
    | _ => (false, chars)
  let kept := (rest.filter fun c => c.toNat < 0x80 && c != ' ' && c != '_' && c != '-').map
    Char.toLower
  if lead && kept == ['c'] then "isc" else String.ofList kept

/-- Names for several categories at once. -/
def categoryGroups : List (List String × List Category) :=
  [(["lc", "casedletter"], [.uppercaseLetter, .lowercaseLetter, .titlecaseLetter]),
    (["l", "letter"],
      [.uppercaseLetter, .lowercaseLetter, .titlecaseLetter, .modifierLetter, .otherLetter]),
    (["m", "mark", "combiningmark"], [.nonspacingMark, .spacingMark, .enclosingMark]),
    (["n", "number"], [.decimalNumber, .letterNumber, .otherNumber]),
    (["p", "punctuation", "punct"],
      [.connectorPunctuation, .dashPunctuation, .openPunctuation, .closePunctuation,
        .initialPunctuation, .finalPunctuation, .otherPunctuation]),
    (["s", "symbol"], [.mathSymbol, .currencySymbol, .modifierSymbol, .otherSymbol]),
    (["z", "separator"], [.spaceSeparator, .lineSeparator, .paragraphSeparator]),
    (["c", "other"], [.control, .format, .privateUse, .unassigned]),
    (["digit"], [.decimalNumber]),
    (["cntrl"], [.control])]

/-- The characters of a category, or of a group of them, under a loose name. -/
def category? (name : String) : Option CharSet :=
  if name == "any" then some CharSet.full
  else if name == "assigned" then some Category.assigned
  else if name == "ascii" then some (CharSet.ofRanges [(0, 0x7f)])
  else
    match Category.all.find? fun c => looseName c.short == name || looseName c.title == name with
    | some category => some category.chars
    | none =>
        (categoryGroups.find? fun group => group.1.contains name).map fun group =>
          CharSet.unions (group.2.map Category.chars)

def script? (name : String) : Option CharSet :=
  (Script.all.find? fun script => script.names.any fun n => looseName n == name).map fun script =>
    CharSet.ofLines script.ranges

/-- The characters that a script uses: its own and those that it shares with others.  What no
script has for its own belongs to all of them, unless some of them share it. -/
def usedBy (script : Script) : CharSet :=
  let own := CharSet.ofLines script.ranges
  if script.names.contains "Common" || script.names.contains "Inherited" then
    own.diff (CharSet.unions (Script.all.map fun other => CharSet.ofLines other.shared))
  else own.union (CharSet.ofLines script.shared)

def segment? (segments : List Segment) (name : String) : Option CharSet :=
  (segments.find? fun segment => segment.names.any fun n => looseName n == name).map (·.chars)

/-- Properties with values of which a pattern can name the characters. -/
inductive Valued where
  | category
  | script
  | usage
  | version
  | graphemePart
  | wordPart
  | sentencePart
  deriving DecidableEq, Repr

namespace Valued

/-- The property behind a loose name. -/
def ofName? : String → Option Valued
  | "gc" | "generalcategory" => some .category
  | "sc" | "script" => some .script
  | "scx" | "scriptextensions" => some .usage
  | "age" => some .version
  | "gcb" | "graphemeclusterbreak" => some .graphemePart
  | "wb" | "wordbreak" => some .wordPart
  | "sb" | "sentencebreak" => some .sentencePart
  | _ => none

/-- The characters whose value has a loose name. -/
def chars? : Valued → String → Option CharSet
  | .category, value => category? value
  | .script, value => script? value
  | .usage, value => (named? value).map usedBy
  | .version, value => Version.chars? fun version => version.names.any fun n => looseName n == value
  | .graphemePart, value => segment? Segment.graphemes value
  | .wordPart, value => segment? Segment.words value
  | .sentencePart, value => segment? Segment.sentences value
where
  named? (value : String) : Option Script :=
    Script.all.find? fun script => script.names.any fun n => looseName n == value

end Valued

/-- Loose names of properties that have no characters in a pattern. -/
def otherProperties : List String :=
  ["nv", "numericvalue", "bmg", "bidimirroringglyph", "bpb", "bidipairedbracket", "cf",
    "casefolding", "dm", "decompositionmapping", "equideo", "equivalentunifiedideograph",
    "fcnfkc", "fcnfkcclosure", "lc", "lowercasemapping", "nfkccf", "nfkccasefold", "nfkcscf",
    "nfkcsimplecasefold", "scf", "simplecasefolding", "sfc", "slc", "simplelowercasemapping",
    "stc", "simpletitlecasemapping", "suc", "simpleuppercasemapping", "tc", "titlecasemapping",
    "uc", "uppercasemapping", "isc", "ocomment", "jsn", "jamoshortname", "na", "name", "na1",
    "unicode1name", "namealias", "blk", "block", "bc", "bidiclass", "bpt",
    "bidipairedbrackettype", "ccc", "canonicalcombiningclass", "dt", "decompositiontype", "ea",
    "eastasianwidth", "hst", "hangulsyllabletype", "incb", "indicconjunctbreak", "inpc",
    "indicpositionalcategory", "insc", "indicsyllabiccategory", "jg", "joininggroup", "jt",
    "joiningtype", "lb", "linebreak", "nfcqc", "nfcquickcheck", "nfdqc", "nfdquickcheck",
    "nfkcqc", "nfkcquickcheck", "nfkdqc", "nfkdquickcheck", "nt", "numerictype", "vo",
    "verticalorientation", "ce", "compositionexclusion", "compex", "fullcompositionexclusion",
    "cwkcf", "changeswhennfkccasefolded", "xonfc", "expandsonnfc", "xonfd", "expandsonnfd",
    "xonfkc", "expandsonnfkc", "xonfkd", "expandsonnfkd", "urs", "unicoderadicalstroke",
    "cjkaccountingnumeric", "kaccountingnumeric", "cjkothernumeric", "kothernumeric",
    "cjkprimarynumeric", "kprimarynumeric", "cjkcompatibilityvariant", "kcompatibilityvariant",
    "cjkiicore", "kiicore", "cjkmandarin", "kmandarin", "cjkrsunicode", "krsunicode",
    "cjktotalstrokes", "ktotalstrokes", "cjkunihancore2020", "kunihancore2020", "cjkirggsource",
    "kirggsource", "cjkirghsource", "kirghsource", "cjkirgjsource", "kirgjsource",
    "cjkirgkpsource", "kirgkpsource", "cjkirgksource", "kirgksource", "cjkirgmsource",
    "kirgmsource", "cjkirgssource", "kirgssource", "cjkirgtsource", "kirgtsource",
    "cjkirguksource", "kirguksource", "cjkirgusource", "kirgusource", "cjkirgvsource",
    "kirgvsource", "kehcat", "kehcore", "kehdesc", "kehfunc", "kehfval", "kehhg", "kehifao",
    "kehjsesh", "kehnomirror", "kehnorotate", "kehunik"]

/-- Loose names of a category and of scripts without any character. -/
def withoutChars : List String :=
  ["cs", "surrogate", "unknown", "zzzz", "hrkt", "katakanaorhiragana"]

def binary? (name : String) : Option Property :=
  Property.all.find? fun property => property.names.any fun n => looseName n == name

/-- There is a property of that loose name. -/
def isProperty (name : String) : Bool :=
  (binary? name).isSome || (Valued.ofName? name).isSome || otherProperties.contains name

/-- Names of categories that could also stand for a property with values. -/
def categoriesFirst : List String :=
  ["cf", "sc", "lc"]

/-- The characters of a property as a pattern writes it.  A name alone is that of a property that a
character has or not, of a category or of a script, in this order. -/
def PropertyName.chars : PropertyName → Except Cause CharSet
  | .named name =>
      let name := looseName name
      if isProperty name && !categoriesFirst.contains name then
        match binary? name with
        | some property => .ok property.chars
        | none => .error .propertyNotFound
      else
        match (category? name).or (script? name) with
        | some set => .ok set
        | none =>
            .error (if withoutChars.contains name then .propertyValueNotFound
              else .propertyNotFound)
  | .valued name value _ =>
      let name := looseName name
      match Valued.ofName? name with
      | some property =>
          match property.chars? (looseName value) with
          | some set => .ok set
          | none => .error .propertyValueNotFound
      | none => .error (if isProperty name then .propertyValueNotFound else .propertyNotFound)

/-- Characters that words are made of. -/
def wordChars : CharSet :=
  CharSet.unions [Property.alphabetic, Property.marks, CharSet.parse "200C-200D",
    Property.ofCategories [.decimalNumber, .connectorPunctuation]]

/-- The characters of a class of one letter, and those of them below U+0080. -/
def PerlClass.chars (unicode : Bool) : PerlClass → CharSet
  | .digit => if unicode then Category.chars .decimalNumber else CharSet.parse "30-39"
  | .space => if unicode then Property.whiteSpace else CharSet.parse "9-D 20"
  | .word => if unicode then wordChars else CharSet.parse "30-39 41-5A 5F 61-7A"

def AsciiClass.chars : AsciiClass → CharSet
  | .alnum => CharSet.parse "30-39 41-5A 61-7A"
  | .alpha => CharSet.parse "41-5A 61-7A"
  | .ascii => CharSet.parse "0-7F"
  | .blank => CharSet.parse "9 20"
  | .cntrl => CharSet.parse "0-1F 7F"
  | .digit => CharSet.parse "30-39"
  | .graph => CharSet.parse "21-7E"
  | .lower => CharSet.parse "61-7A"
  | .print => CharSet.parse "20-7E"
  | .punct => CharSet.parse "21-2F 3A-40 5B-60 7B-7E"
  | .space => CharSet.parse "9-D 20"
  | .upper => CharSet.parse "41-5A"
  | .word => CharSet.parse "30-39 41-5A 5F 61-7A"
  | .xdigit => CharSet.parse "30-39 41-46 61-66"

/-- Adds to a set every character that differs from one of its own in case alone. -/
def foldCase (set : CharSet) : CharSet :=
  let targets := Folding.pairs.filterMap fun (source, target) =>
    if set.holds source then some (target, target) else none
  let folded := CharSet.ofRanges (set.ranges ++ targets)
  let sources := Folding.pairs.filterMap fun (source, target) =>
    if folded.holds target then some (source, source) else none
  CharSet.ofRanges (folded.ranges ++ sources)

/-- As `foldCase`, for the letters below U+0080 only. -/
def foldAsciiCase (set : CharSet) : CharSet :=
  let others := (List.range 26).flatMap fun n =>
    (if set.holds (0x41 + n) then [(0x61 + n, 0x61 + n)] else []) ++
      (if set.holds (0x61 + n) then [(0x41 + n, 0x41 + n)] else [])
  CharSet.ofRanges (set.ranges ++ others)

end Rehearsal.Pattern

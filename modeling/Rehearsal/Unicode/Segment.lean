import Rehearsal.Unicode.Property
import Rehearsal.Unicode.Script

/-!
What part a character plays where a text is divided into graphemes, words or sentences.
-/

namespace Rehearsal.Unicode

/-- A part under its names. -/
structure Segment where
  names : List String
  chars : CharSet
  deriving Repr

namespace Segment

open Property

/-- Signs before numbers, which count as numbers themselves. -/
def numberSigns : CharSet :=
  prependedMark.diff (CharSet.parse "70F")

def digits : CharSet :=
  CharSet.unions [Category.chars .decimalNumber, numberSigns, CharSet.parse "66B 19DA"]

def joiners : CharSet :=
  CharSet.parse "200C-200D"

/-! ### Graphemes -/

def extending : CharSet :=
  graphemeExtend.union (CharSet.parse "1F3FB-1F3FF")

def prepended : CharSet :=
  prependedMark.union (CharSet.parse
    "D4E 111C2-111C3 113D1 1193F 11941 11A84-11A89 11D46 11F02")

/-- Marks with a width of their own that do not join the character before them. -/
def looseMarks : CharSet :=
  CharSet.ofLines [
    "102B-102C 1038 1062-1064 1067-106D 1083 1087-108C 108F 109A-109C 1A61 1A63-1A64 AA7B AA7D",
    "11720-11721"]

def spacing : CharSet :=
  ((Category.chars .spacingMark).diff (extending.union looseMarks)).union
    (CharSet.parse "E33 EB3")

def controls : CharSet :=
  (CharSet.unions [Property.ofCategories [.control, .format, .lineSeparator,
    .paragraphSeparator], (Category.chars .unassigned).inter defaultIgnorable]).diff
      (CharSet.unions [CharSet.parse "A D", joiners, prepended, extending])

/-- Syllables that are made of two letters: every 28th one. -/
def openSyllables : CharSet :=
  ⟨(List.range 399).map fun n => (0xac00 + 28 * n, 0xac00 + 28 * n)⟩

def graphemes : List Segment :=
  [⟨["Control", "CN"], controls⟩,
    ⟨["CR"], CharSet.parse "D"⟩,
    ⟨["Extend", "EX"], extending⟩,
    ⟨["L"], CharSet.parse "1100-115F A960-A97C"⟩,
    ⟨["LF"], CharSet.parse "A"⟩,
    ⟨["LV"], openSyllables⟩,
    ⟨["LVT"], (CharSet.parse "AC00-D7A3").diff openSyllables⟩,
    ⟨["Prepend", "PP"], prepended⟩,
    ⟨["Regional_Indicator", "RI"], CharSet.parse "1F1E6-1F1FF"⟩,
    ⟨["SpacingMark", "SM"], spacing⟩,
    ⟨["T"], CharSet.parse "11A8-11FF D7CB-D7FB"⟩,
    ⟨["V"], CharSet.parse "1160-11A7 D7B0-D7C6 16D63 16D67-16D6A"⟩,
    ⟨["ZWJ"], CharSet.parse "200D"⟩]

/-! ### Words -/

/-- Letters of scripts that write words without a gap. -/
def complexLetters : CharSet :=
  CharSet.ofLines [
    "E01-E30 E32-E33 E40-E46 E81-E82 E84 E86-E8A E8C-EA3 EA5 EA7-EB0 EB2-EB3 EBD EC0-EC4 EC6",
    "EDC-EDF 1000-102A 103F 1050-1055 105A-105D 1061 1065-1066 106E-1070 1075-1081 108E",
    "1780-17B3 17D7 17DC 1950-196D 1970-1974 1980-19AB 19B0-19C9 1A20-1A54 1AA7 3041-3096",
    "309D-309F A9E0-A9E4 A9E6-A9EF A9FA-A9FE AA60-AA76 AA7A AA7E-AAAF AAB1 AAB5-AAB6 AAB9-AABD",
    "AAC0 AAC2 AADB-AADD 11700-1171A 11740-11746 1B001-1B11F 1B132 1B150-1B152"]

/-- Characters that count as letters although they are not alphabetic. -/
def letterLike : CharSet :=
  CharSet.ofLines [
    "B8 2C2-2C5 2D2-2D7 2DE-2DF 2E5-2EB 2ED 2EF-2FF 55A-55C 55E 58A 5F3 70F A708-A716 A720-A721",
    "A789-A78A AB5B"]

/-- Katakana and what goes with them. -/
def katakana : CharSet :=
  CharSet.ofLines [
    "3031-3035 309B-309C 30A0-30FA 30FC-30FF 31F0-31FF 32D0-32FE 3300-3357 FF66-FF9D 1AFF0-1AFF3",
    "1AFF5-1AFFB 1AFFD-1AFFE 1B000 1B120-1B122 1B155 1B164-1B167"]

def wordExtending : CharSet :=
  extending.union (Category.chars .spacingMark)

def hebrewLetters : CharSet :=
  (CharSet.ofLines Script.hebrew.ranges).inter (Category.chars .otherLetter)

def wordLetters : CharSet :=
  (alphabetic.diff (CharSet.unions [unifiedIdeograph, otherIdeographic, katakana, wordExtending,
    hebrewLetters, complexLetters])).union letterLike

/-- Invisible characters within a text; those that are tags belong to the character before. -/
def formats : CharSet :=
  (Category.chars .format).diff (CharSet.unions [joiners, numberSigns, CharSet.parse "E0020-E007F"])

def words : List Segment :=
  [⟨["ALetter", "LE"], wordLetters⟩,
    ⟨["CR"], CharSet.parse "D"⟩,
    ⟨["Double_Quote", "DQ"], CharSet.parse "22"⟩,
    ⟨["Extend"], wordExtending⟩,
    ⟨["ExtendNumLet", "EX"], CharSet.parse "5F 202F 203F-2040 2054 FE33-FE34 FE4D-FE4F FF3F"⟩,
    ⟨["Format", "FO"], formats.diff (CharSet.parse "70F 200B")⟩,
    ⟨["Hebrew_Letter", "HL"], hebrewLetters⟩,
    ⟨["Katakana", "KA"], katakana⟩,
    ⟨["LF"], CharSet.parse "A"⟩,
    ⟨["MidLetter", "ML"], CharSet.parse "3A B7 387 55F 5F4 2027 FE13 FE55 FF1A"⟩,
    ⟨["MidNum", "MN"], CharSet.parse
      "2C 3B 37E 589 60C-60D 66C 7F8 2044 FE10 FE14 FE50 FE54 FF0C FF1B"⟩,
    ⟨["MidNumLet", "MB"], CharSet.parse "2E 2018-2019 2024 FE52 FF07 FF0E"⟩,
    ⟨["Newline", "NL"], CharSet.parse "B-C 85 2028-2029"⟩,
    ⟨["Numeric", "NU"], digits⟩,
    ⟨["Regional_Indicator", "RI"], CharSet.parse "1F1E6-1F1FF"⟩,
    ⟨["Single_Quote", "SQ"], CharSet.parse "27"⟩,
    ⟨["WSegSpace"], CharSet.parse "20 1680 2000-2006 2008-200A 205F 3000"⟩,
    ⟨["ZWJ"], CharSet.parse "200D"⟩]

/-! ### Sentences -/

def sentenceExtending : CharSet :=
  CharSet.unions [graphemeExtend, Category.chars .spacingMark, CharSet.parse "200D"]

def sentenceLower : CharSet :=
  lowercase.diff (sentenceExtending.union (CharSet.parse "10D0-10FA 10FD-10FF"))

def sentenceUpper : CharSet :=
  (uppercase.union (Category.chars .titlecaseLetter)).diff (CharSet.parse "1C90-1CBA 1CBD-1CBF")

def sentenceLetters : CharSet :=
  (alphabetic.diff (CharSet.unions [sentenceLower, sentenceUpper, sentenceExtending])).union
    (CharSet.parse "5F3")

def sentences : List Segment :=
  [⟨["ATerm", "AT"], CharSet.parse "2E 2024 FE52 FF0E"⟩,
    ⟨["CR"], CharSet.parse "D"⟩,
    ⟨["Close", "CL"], CharSet.unions [Property.ofCategories [.openPunctuation, .closePunctuation,
      .initialPunctuation, .finalPunctuation], CharSet.parse
      "22 27 275B-2760 2E00-2E01 2E06-2E08 2E0B 1F676-1F678"]⟩,
    ⟨["Extend", "EX"], sentenceExtending⟩,
    ⟨["Format", "FO"], formats⟩,
    ⟨["LF"], CharSet.parse "A"⟩,
    ⟨["Lower", "LO"], sentenceLower⟩,
    ⟨["Numeric", "NU"], digits.union (CharSet.parse "66C")⟩,
    ⟨["OLetter", "LE"], sentenceLetters⟩,
    ⟨["SContinue", "SC"], CharSet.ofLines [
      "2C-2D 3A-3B 37E 55D 60C-60D 7F8 1802 1808 2013-2014 3001 FE10-FE11 FE13-FE14 FE31-FE32",
      "FE50-FE51 FE54-FE55 FE58 FE63 FF0C-FF0D FF1A-FF1B FF64"]⟩,
    ⟨["STerm", "ST"], sentenceTerminal.diff (CharSet.parse "2E 2024 FE52 FF0E")⟩,
    ⟨["Sep", "SE"], CharSet.parse "85 2028-2029"⟩,
    ⟨["Sp", "SP"], CharSet.parse "9 B-C 20 A0 1680 2000-200A 202F 205F 3000"⟩,
    ⟨["Upper", "UP"], sentenceUpper⟩]

end Segment

end Rehearsal.Unicode

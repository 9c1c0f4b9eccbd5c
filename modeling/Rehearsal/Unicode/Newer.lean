import Rehearsal.Unicode.CharSet

/-!
Characters that are newer than the tables of properties.

Patterns go by those tables.  What is shown to a reader goes by the newest characters as well.
-/

namespace Rehearsal.Unicode.Newer

/-- Marks that join the character before them. -/
def marks : CharSet :=
  CharSet.ofLines [
    "5C8-5C9 B53-B54 1ACF-1AFF 10EFA-10EFB 11B60 11B62-11B64 11B66 1E6E3 1E6E6 1E6EE-1E6EF 1E6F5"]

/-- Characters that are shown as pictures. -/
def pictures : CharSet :=
  CharSet.parse "1F6D8-1F6D9 1FA8A-1FA8E 1FAC8 1FACB 1FACD 1FADD 1FAEA-1FAEB 1FAEF 1FAF9-1FAFA"

/-- Ideographs, which are as wide as pictures. -/
def ideographs : CharSet :=
  CharSet.ofLines [
    "16FF2-16FF6 187F8-187FF 18CD6-18CFE 18D09-18D1E 18D80-18DF2 18E00-19193 191A0-191D2",
    "2B73A-2B73F 2CEA2-2CEAD 323B0-33479 3D000-3FC3F"]

/-- Other letters. -/
def letters : CharSet :=
  CharSet.ofLines [
    "88F C5C CDC A7CE-A7CF A7D2 A7D4 A7F1 10940-10959 10EC5-10EC7 11B61 11B65 11B67 11DB0-11DDB",
    "16EA0-16EB8 16EBB-16ED3 1E6C0-1E6DE 1E6E0-1E6E2 1E6E4-1E6E5 1E6E7-1E6ED 1E6F0-1E6F4",
    "1E6FE-1E6FF"]

/-- Digits. -/
def digits : CharSet :=
  CharSet.parse "11DE0-11DE9"

/-- Other signs. -/
def symbols : CharSet :=
  CharSet.ofLines [
    "20C1 2B96 FBC3-FBD2 FD90-FD91 FDC8-FDCE 10ED0-10ED8 1CCFA-1CCFC 1CEBA-1CED0 1CEE0-1CEF0",
    "1F777-1F77A 1F8D0-1F8D8 1FA54-1FA57 1FBFA"]

/-- All of them. -/
def all : CharSet :=
  CharSet.unions [marks, pictures, ideographs, letters, digits, symbols]

/-- Those that texts are spelt with, some of the marks among them. -/
def alphabetic : CharSet :=
  CharSet.unions [letters, ideographs,
    CharSet.parse "10EFA-10EFB 11B60 11B62-11B64 11B66 1E6E3 1E6E6 1E6EE-1E6EF 1E6F5"]

end Rehearsal.Unicode.Newer

import Bindery.Unicode.Property

/-!
# Letters and digits of names

Names are read and cased by version 17 of the standard, one version after the tables of
patterns. Each set here is one of version 16 with what the newer version adds or drops.
-/

namespace Bindery.Unicode

def nameLetter : CodeSet :=
  alphabetic ∪ .ofTable [
    "88F C5C CDC A7CE-A7CF A7D2 A7D4 A7F1 10940-10959 10EC5-10EC7 10EFA-10EFB 11B60-11B67",
    "11DB0-11DDB 16EA0-16EB8 16EBB-16ED3 16FF2-16FF6 187F8-187FF 18D09-18D1E 18D80-18DF2",
    "1E6C0-1E6DE 1E6E0-1E6F5 1E6FE-1E6FF 2B73A-2B73F 2CEA2-2CEAD 323B0-33479"]

def nameNumber : CodeSet := number ∪ .ofTable ["11DE0-11DE9 16FF4-16FF6"]

def nameCased : CodeSet :=
  (cased \ .ofTable ["295"]) ∪ .ofTable ["A7CE-A7CF A7D2 A7D4 A7F1 16EA0-16EB8 16EBB-16ED3"]

def nameCaseIgnorable : CodeSet :=
  caseIgnorable ∪ .ofTable [
    "1ACF-1ADD 1AE0-1AEB A7F1 10EC5 10EFA-10EFB 11B60 11B62-11B64 11B66 11DD9 16FF2-16FF3",
    "1E6E3 1E6E6 1E6EE-1E6EF 1E6F5 1E6FF"]

end Bindery.Unicode

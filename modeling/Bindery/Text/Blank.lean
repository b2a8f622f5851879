/-!
# Blanks

A blank is a character with the White_Space property. `words` cuts a text at blanks
and `trimEnd` drops them from its end.
-/

namespace Bindery

def blankRanges : List (Nat × Nat) :=
  [(0x9, 0xD), (0x20, 0x20), (0x85, 0x85), (0xA0, 0xA0), (0x1680, 0x1680), (0x2000, 0x200A),
   (0x2028, 0x2029), (0x202F, 0x202F), (0x205F, 0x205F), (0x3000, 0x3000)]

def isBlank (c : Char) : Bool := blankRanges.any fun r => r.1 ≤ c.toNat && c.toNat ≤ r.2

/-- Collects the words of a text; `word` holds the letters of an unfinished one, last first. -/
def wordsAfter (word : List Char) : List Char → List String
  | [] => if word.isEmpty then [] else [String.ofList word.reverse]
  | c :: rest =>
    if isBlank c then
      if word.isEmpty then wordsAfter [] rest
      else String.ofList word.reverse :: wordsAfter [] rest
    else wordsAfter (c :: word) rest

def words (s : String) : List String := wordsAfter [] s.toList

def trimEnd (s : String) : String := String.ofList (s.toList.reverse.dropWhile isBlank).reverse

end Bindery

import Bindery.Text.CaseTable
import Bindery.Unicode.Letters

/-!
# Letter case

Full case mapping of characters and texts. A capital sigma at the end of a word
becomes a final sigma; everything else is mapped without regard to its neighbours.
-/

namespace Bindery

def upperChar (c : Char) : List Char :=
  if c.toNat < 0x80 then [c.toUpper]
  else
    match upperExpansions.lookup c.toNat with
    | some image => image.map Char.ofNat
    | none => [((upperRuns.image? c.toNat).map Char.ofNat).getD c]

def lowerChar (c : Char) : List Char :=
  if c.toNat < 0x80 then [c.toLower]
  else
    match lowerExpansions.lookup c.toNat with
    | some image => image.map Char.ofNat
    | none => [((lowerRuns.image? c.toNat).map Char.ofNat).getD c]

def upper (s : String) : String := String.ofList (s.toList.flatMap upperChar)

/-! ## Sigma at the end of a word -/

def isCased (c : Char) : Bool :=
  if c.toNat < 0x80 then c.isAlpha else Unicode.nameCased.has c

/-- Characters that are looked through when the ends of a word are sought. -/
def isCaseIgnorable (c : Char) : Bool :=
  if c.toNat < 0x80 then ['\'', '.', ':', '^', '\x60'].contains c
  else Unicode.nameCaseIgnorable.has c

def startsCased (cs : List Char) : Bool :=
  match cs.dropWhile isCaseIgnorable with
  | [] => false
  | c :: _ => isCased c

/-- Lower case of the rest of a text; `inWord` says whether a cased letter comes before it. -/
def lowerFrom (inWord : Bool) : List Char → List Char
  | [] => []
  | c :: rest =>
    let image :=
      if c.toNat == 0x3A3 then
        if inWord && !startsCased rest then [Char.ofNat 0x3C2] else [Char.ofNat 0x3C3]
      else lowerChar c
    image ++ lowerFrom (if isCaseIgnorable c then inWord else isCased c) rest

end Bindery

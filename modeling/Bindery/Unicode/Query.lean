import Bindery.Unicode.Age
import Bindery.Unicode.Boundary
import Bindery.Unicode.Script

/-!
# Asking for a property

How a pattern asks for a property: by the name of a property, a category or a script, or
by a name and a value. Names are compared loosely.
-/

namespace Bindery.Unicode

/-- A name without a leading `is`, in lower case, and without blanks, hyphens, underscores
and all that is not ASCII. What would be left as `c` keeps its `is`. -/
def looseName (name : List Char) : String :=
  let (isCut, rest) := match name with
    | i :: s :: rest => if i.toLower == 'i' && s.toLower == 's' then (true, rest) else (false, name)
    | _ => (false, name)
  let kept := (rest.filter fun c => c.toNat < 0x80 && c != ' ' && c != '_' && c != '-').map
    Char.toLower
  if isCut && kept == ['c'] then "isc" else String.ofList kept

def setNamed? (name : List Char) : Option CodeSet :=
  let name := looseName name
  findSet? properties name <|> findSet? categories name <|> (findScript? name).map (·.set)

def setValued? (name value : List Char) : Option CodeSet :=
  let value := looseName value
  match looseName name with
  | "gc" | "generalcategory" => findSet? categories value
  | "sc" | "script" => (findScript? value).map (·.set)
  | "scx" | "scriptextensions" => (findScript? value).map (·.extensions)
  | "age" => findAge? value
  | "gcb" | "graphemeclusterbreak" => findSet? clusterBreaks value
  | "wb" | "wordbreak" => findSet? wordBreaks value
  | "sb" | "sentencebreak" => findSet? sentenceBreaks value
  | _ => none

end Bindery.Unicode

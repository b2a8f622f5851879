import Bindery.Unicode.CodeSet

/-!
# Sets by name

A property of the standard has several names, which are kept in their loose form: in lower
case, without blanks, hyphens and underscores.
-/

namespace Bindery.Unicode

structure NamedSet where
  names : List String
  set : CodeSet

def findSet? (sets : List NamedSet) (name : String) : Option CodeSet :=
  (sets.find? (·.names.contains name)).map (·.set)

end Bindery.Unicode

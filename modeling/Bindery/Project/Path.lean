import Bindery.Text.Pieces

/-!
# Paths

A path is a text whose pieces stand between slashes. Paths are put together and taken
apart as texts: nothing here looks at files, and `.` and `..` are kept as they are.
-/

namespace Bindery

abbrev Path := String

namespace Path

def isAbsolute (p : Path) : Bool := p.toList.head? == some '/'

def join (base p : Path) : Path :=
  if isAbsolute p || base.isEmpty then p
  else if base.toList.getLast? == some '/' then base ++ p
  else base ++ "/" ++ p

def names (p : Path) : List String := (pieces '/' p.toList).map String.ofList

def isIdle (name : String) : Bool := name.isEmpty || name == "."

def trimIdle (names : List String) : List String := (names.reverse.dropWhile isIdle).reverse

/-- The path without its last name; neither the root nor the empty path has one. A single
dot at the beginning counts as a name. -/
def parent? (p : Path) : Option Path :=
  match p.names with
  | [] => none
  | first :: rest =>
    if (trimIdle rest).isEmpty then
      if first.isEmpty then none else some ""
    else
      let way := trimIdle (trimIdle rest).dropLast
      some (if way.isEmpty && first.isEmpty then "/" else "/".intercalate (first :: way))

def upward (p : Path) : List Path :=
  let rec go : (steps : Nat) → Path → List Path
    | 0, p => [p]
    | steps + 1, p =>
      match p.parent? with
      | some q => p :: go steps q
      | none => [p]
  go p.length p

end Path

end Bindery

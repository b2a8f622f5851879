import Bindery.Dict
import Bindery.Lowering.Error
import Bindery.Name.Filter

/-!
# Package settings

What a project says about one of its packages.
-/

namespace Bindery

structure PackageSettings where
  name : String := ""
  path : String := ""
  /-- Headers whose declarations the package owns; without any it owns all files. -/
  headers : List String := []
  pattern : Option String := none
  /-- Beginning of the names that it exports, used without a pattern. -/
  namePrefix : Option String := none
  excluded : List String := []
  truthTypes : List String := []
  overrides : Dict String := {}
  includes : List String := []
  cgoDirectives : List String := []
  goFile : Option String := none
  cFile : Option String := none
  hFile : Option String := none
  deriving Inhabited

namespace PackageSettings

/-- The name filter. A pattern comes before a beginning, and without both every name is taken. -/
def filter (s : PackageSettings) : Except BindingError NameFilter :=
  match s.pattern, s.namePrefix with
  | some pattern, _ =>
    match Pattern.ofString? pattern with
    | some p => pure (.pattern p)
    | none => throw (.invalidPattern s.name)
  | none, some start => pure (.beginning start)
  | none, none => pure .all

end PackageSettings

end Bindery

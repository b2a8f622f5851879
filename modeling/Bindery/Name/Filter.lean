import Bindery.Name.Casing
import Bindery.Pattern.Program

/-!
# Name filters

Which native names a package takes, and what part of them is meaningful. A filter is a
pattern, whose first group is the meaningful part, or a literal beginning of names.
-/

namespace Bindery

inductive NameFilter where
  | pattern (p : Pattern)
  | beginning (start : String)

namespace NameFilter

/-- The filter that takes every name and shortens none. -/
def all : NameFilter := .beginning ""

def accepts : NameFilter → String → Bool
  | pattern p, native => p.isMatch native
  | beginning start, native => hasStart start native

/-- The meaningful part of a native name, if the filter singles one out. -/
def part? : NameFilter → String → Option String
  | pattern p, native => p.firstGroup? native
  | beginning start, native => if start.isEmpty then none else withoutStart? start native

/-- The exported name for a native name. A meaningful part of two bytes or less is too short
to stand for the name. -/
def upperName (f : NameFilter) (native : String) : String :=
  Bindery.upperName (((f.part? native).filter (2 < ·.utf8ByteSize)).getD native)

end NameFilter

end Bindery

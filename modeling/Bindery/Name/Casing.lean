import Bindery.Text.Affix
import Bindery.Text.Case
import Bindery.Text.Pieces

/-!
# Casing of names

From the underscored names of C to the joined names of Go. A segment that is all upper
case is lowered before its first letter is raised, so `RGB_value` becomes `RgbValue`.
-/

namespace Bindery

def segments (cs : List Char) : List (List Char) := pieces '_' cs

def capitalize : List Char → List Char
  | [] => []
  | c :: cs => upperChar c ++ cs

/-- Lowers a segment that has no lower case. -/
def settle (segment : List Char) : List Char :=
  if segment.flatMap upperChar = segment then lowerFrom false segment else segment

def camelChars (cs : List Char) : List Char := (segments cs).flatMap fun s => capitalize (settle s)

def camel (s : String) : String := String.ofList (camelChars s.toList)

/-- The exported form of a native name; a name of more than three bytes loses a final `_t`. -/
def upperName (s : String) : String :=
  camel (if 3 < s.utf8ByteSize then (withoutEnd? "_t" s).getD s else s)

/-- The form of local names, which begins in lower case. A name of one byte is kept. -/
def lowerCamel (s : String) : String :=
  if s.utf8ByteSize ≤ 1 then s
  else
    match camelChars s.toList with
    | [] => ""
    | c :: cs => String.ofList (lowerChar c ++ cs)

/-- Keywords of Go, and predeclared names that generated code must not shadow. -/
def reservedNames : List String :=
  ["break", "case", "chan", "const", "continue", "default", "defer", "else", "fallthrough",
   "for", "func", "go", "goto", "if", "import", "interface", "map", "package", "range",
   "return", "select", "struct", "switch", "type", "var", "true", "false", "iota", "nil",
   "append", "cap", "close", "complex", "copy", "delete", "imag", "len", "make", "new",
   "panic", "print", "println", "real", "recover", "string", "error"]

/-- The name of a parameter, kept apart from the reserved names by an underscore. -/
def lowerName (s : String) : String :=
  let name := lowerCamel s
  if reservedNames.contains name then name ++ "_" else name

end Bindery

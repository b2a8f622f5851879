import Bindery.Render.Trampoline
import Bindery.Render.Type
import Bindery.Text.Blank
import Bindery.Text.Word

/-!
# The Go file of a package

The preamble names the headers, the imports are those that the body uses, and the body
has the declarations in the order of their kinds.
-/

namespace Bindery

def generatedNotice : String := "// Code generated by cbridge. DO NOT EDIT."

/-! ## Use of a package name -/

/-- Whether the characters use a package: its name and a point, with a word boundary before.
`before` is the character before them. -/
def usesName (name : List Char) (before : Option Char) : List Char → Bool
  | [] => false
  | c :: cs =>
    ((dropStart? (name ++ ['.']) (c :: cs)).isSome && isWordBoundary before (some c))
      || usesName name (some c) cs

def usesPackage (body name : String) : Bool := usesName name.toList none body.toList

/-! ## The file -/

namespace Emission

variable (e : Emission)

def variableLines : List String :=
  (e.globals.filterMap fun v => (v.initializer? e.package.types).map ("var " ++ ·))
    ++ (if e.globals.isEmpty then [] else [""])

def bodyLines : List String :=
  let r := e.package.types
  e.variableLines
    ++ e.types.flatMap (·.lines r e.package.rules.pointerWidth)
    ++ sizeCheckLines e.types r
    ++ e.functions.flatMap (·.lines r)
    ++ e.trampolines.flatMap (·.lines r)

def preambleLines (header : Option String) : List String :=
  let s := e.package.settings
  ["/*"]
    ++ s.headers.map (fun h => "#include <" ++ h ++ ">")
    ++ (if e.trampolines.isEmpty then [] else header.toList.map fun h => "#include \"" ++ h ++ "\"")
    ++ ["#include <stdlib.h>"]
    ++ s.cgoDirectives.map ("#cgo " ++ ·)
    ++ ["*/", "import \"C\"", ""]

def importLines (body : String) : List String :=
  let own := if hasPiece "unsafe." body then ["\t\"unsafe\""] else []
  let others := (e.package.imports.filter fun q => usesPackage body q.name).map fun q =>
    "\t" ++ q.name ++ " \"" ++ q.path ++ "\""
  if (own ++ others).isEmpty then [] else "import (" :: (own ++ others) ++ [")", ""]

/-- The Go source. A package with trampolines includes the header with their prototypes. -/
def goSource (header : Option String) : String :=
  let body := unlines e.bodyLines
  unlines ([generatedNotice, "", "package " ++ e.package.name, ""] ++ e.preambleLines header
    ++ e.importLines body)
    ++ trimEnd body ++ "\n"

end Emission

end Bindery

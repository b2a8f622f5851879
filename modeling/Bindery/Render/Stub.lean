import Bindery.Render.File

/-!
# The C files of a package

For each trampoline a C function that has the type of the native callback and forwards to
the exported Go function, and its prototype in a header.
-/

namespace Bindery

structure Prototype where
  text : String
  argumentNames : List String
  returnsVoid : Bool

def stubParameterName (index : Nat) (native : String) : String :=
  if native.isEmpty then "arg" ++ toString index else native

namespace Emission

variable (e : Emission)

def prototype (t : Trampoline) : Except BindingError Prototype := do
  let d := e.package.document
  let f ← d.functionType t.functionType
  let returnsVoid ← d.isVoid f.returns
  let result ← if returnsVoid then pure "void" else d.cSpelling f.returns
  let parameters ← f.arguments.zipIdx.mapM fun (a, index) => do
    let name := stubParameterName index a.name
    pure ((← d.cSpelling a.type) ++ " " ++ name, name)
  let list := if parameters.isEmpty then "void" else commaSeparated (parameters.map (·.1))
  pure { text := result ++ " " ++ t.cName ++ "(" ++ list ++ ")"
         argumentNames := parameters.map (·.2), returnsVoid }

def stubLines (t : Trampoline) : Except BindingError (List String) := do
  let p ← e.prototype t
  let call := t.goName ++ "(" ++ commaSeparated p.argumentNames ++ ");"
  pure ["", p.text ++ " \x7b", "\t" ++ (if p.returnsVoid then call else "return " ++ call), "\x7d"]

def cSource : Except BindingError String := do
  let stubs ← e.trampolines.mapM e.stubLines
  pure (unlines ([generatedNotice, "", "#include \"_cgo_export.h\""] ++ stubs.flatten))

def headerGuard : String := "CBRIDGE_" ++ upper e.package.name ++ "_H"

def cHeader : Except BindingError String := do
  let prototypes ← e.trampolines.mapM e.prototype
  pure (unlines ([generatedNotice, "", "#ifndef " ++ e.headerGuard, "#define " ++ e.headerGuard, ""]
    ++ prototypes.map (fun p => "extern " ++ p.text ++ ";")
    ++ ["", "#endif /* " ++ e.headerGuard ++ " */"]))

end Emission

end Bindery

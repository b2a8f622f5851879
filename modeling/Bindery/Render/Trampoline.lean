import Bindery.Callback.Trampoline
import Bindery.Render.Function

/-!
# Source of trampolines

The exported function takes the managed function out of the user data, converts its
parameters, calls the managed function, and converts what that returns.
-/

namespace Bindery

/-- The native type of a parameter of an exported function: every pointer but a C string
arrives untyped. -/
def Descriptor.exportedName (r : Registry) (d : Descriptor) : String :=
  match d with
  | .string => "*C.char"
  | .pointer _ => "unsafe.Pointer"
  | .slice _ => "unsafe.Pointer"
  | .sliceOfSlice _ => "unsafe.Pointer"
  | .stringArray => "unsafe.Pointer"
  | .outPointer _ => "unsafe.Pointer"
  | .callbackOutPointer _ => "unsafe.Pointer"
  | .callable .. => "unsafe.Pointer"
  | d => d.nativeName r

namespace Trampoline

variable (t : Trampoline) (r : Registry)

def heading : String :=
  let parameters := t.arguments.map fun a => a.native ++ " " ++ a.type.exportedName r
  let result := match t.result with
    | some p => " (_" ++ p.name ++ " " ++ p.type.nativeName r ++ ")"
    | none => ""
  "func " ++ t.goName ++ "(" ++ commaSeparated parameters ++ ")" ++ result ++ " \x7b"

def crossing : List (Parameter × String) :=
  (t.parameters.zip (t.arguments.map (·.native))).eraseIdx t.dataIndex

def dataLines : List String :=
  let native := ((t.arguments[t.dataIndex]?).map (·.native)).getD ""
  t.dataParameter.type.toManaged r .define t.dataParameter.name native

/-- Converts an input. One that cannot be converted is declared without a value. -/
def inputLines (p : Parameter) (native : String) : List String :=
  let lines := p.type.toManaged r .define p.name native
  if lines.all (hasStart "//") then
    lines ++ ["var " ++ p.name ++ " " ++ p.type.managedName r]
  else lines

def callLine : String :=
  let call := t.dataParameter.name ++ "(" ++ commaSeparated (t.callInputs.map (·.name)) ++ ")"
  if t.callOutputs.isEmpty then call
  else commaSeparated (t.callOutputs.map (·.name)) ++ " := " ++ call

def resultLines : List String :=
  match t.result with
  | some p => p.type.toNative r .set p.name ("_" ++ p.name) ++ ["return"]
  | none => []

def body : List String :=
  t.dataLines r
    ++ (t.crossing.filter (!·.1.isOutput)).flatMap (fun (p, native) => inputLines r p native)
    ++ [t.callLine]
    ++ (t.crossing.filter (·.1.isOutput)).flatMap (fun (p, native) =>
      p.type.toNative r .set p.name native)
    ++ t.resultLines r

def lines : List String :=
  ["//export " ++ t.goName, t.heading r] ++ indented (t.body r) ++ ["\x7d", ""]

end Trampoline

end Bindery

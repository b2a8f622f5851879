import Bindery.Managed.Conversion
import Bindery.Render.Lines

/-!
# Source of functions

A wrapper converts its parameters one after the other, calls the native function, and
converts what that returns.
-/

namespace Bindery

def parameterList (r : Registry) (parameters : List Parameter) : String :=
  commaSeparated (parameters.map fun p => p.name ++ " " ++ p.type.managedName r)

namespace Wrapper

variable (w : Wrapper) (r : Registry)

def heading : String :=
  let receiver := match w.receiver with
    | some p => "(" ++ p.name ++ " " ++ p.type.managedName r ++ ") "
    | none => ""
  let results := if w.outputs.isEmpty then "" else " (" ++ parameterList r w.outputs ++ ")"
  "func " ++ receiver ++ w.managed ++ "(" ++ parameterList r w.inputs ++ ")" ++ results ++ " \x7b"

def argumentLines : List String :=
  w.arguments.flatMap fun a => a.type.toNative r .define a.managed a.native

def call : String := "C." ++ w.native ++ "(" ++ commaSeparated (w.arguments.map (·.native)) ++ ")"

def callLines : List String :=
  match w.result with
  | some p =>
    let native := "_" ++ p.name
    (native ++ " := " ++ w.call) :: p.type.toManaged r .set p.name native
  | none => [w.call]

def body : List String :=
  w.argumentLines r ++ w.callLines r ++ (if w.outputs.isEmpty then [] else ["return"])

def lines : List String := w.heading r :: indented (w.body r) ++ ["\x7d", ""]

end Wrapper

end Bindery

import Bindery.Lowering.Types
import Bindery.Managed.Conversion
import Bindery.Name.Casing

/-!
# Lowering of functions and variables

A native function becomes a wrapper with one parameter and one call argument for each
native argument, in order. A native variable becomes a package-level variable that is
initialised from it.
-/

namespace Bindery

open Native (Identity)

structure GlobalVariable where
  id : Identity
  native : String
  file : Identity
  /-- Empty until a name is assigned. -/
  managed : String
  type : Descriptor
  deriving Repr, Inhabited

/-- The assignment that initialises the variable, if its conversion is a single statement. -/
def GlobalVariable.initializer? (v : GlobalVariable) (r : Registry) : Option String :=
  match v.type.toManaged r .set v.managed ("C." ++ v.native) with
  | [line] => if hasStart "//" line then none else some line
  | _ => none

def parameterName (index : Nat) (native : String) : String :=
  if native.isEmpty then "arg" ++ toString index else lowerName native

def unusedName (parameters : List Parameter) : (more : Nat) → (name : String) → String
  | 0, name => name
  | more + 1, name =>
    if parameters.any (·.name == name) then unusedName parameters more (name ++ "_") else name

/-- The result for a type, called `ret` unless a parameter is. -/
def resultParameter (type : Option Descriptor) (parameters : List Parameter) : Option Parameter :=
  type.map fun type =>
    { name := unusedName parameters parameters.length "ret", type, isOutput := true }

namespace LoweringContext

variable (c : LoweringContext)

def lowerArgument (owner : String) (index : Nat) (a : Native.Argument) :
    Lowering (Parameter × CallArgument) := do
  let name := parameterName index a.name
  let type ← c.resolve a.type a.kind
  if type.isVoid then
    throw (.voidValue ("argument '" ++ name ++ "' of " ++ owner))
  pure ({ name, type, isOutput := a.kind == .output },
    { native := "_" ++ name, managed := name, type })

def lowerArguments (owner : String) (arguments : List Native.Argument) :
    Lowering (List Parameter × List CallArgument) := do
  let pairs ← arguments.zipIdx.mapM fun (a, index) => c.lowerArgument owner index a
  pure pairs.unzip

def lowerFunction (f : Native.Function) : Lowering Wrapper := do
  let (parameters, arguments) ← c.lowerArguments ("function '" ++ f.name ++ "'") f.arguments
  let result := resultParameter (← c.resolveReturn f.returns) parameters
  pure { id := f.id, native := f.name, file := f.file, managed := "", receiver := none
         parameters, arguments, result }

def lowerVariable (v : Native.Variable) : Lowering GlobalVariable := do
  let type ← c.value v.type ("variable '" ++ v.name ++ "'")
  pure { id := v.id, native := v.name, file := v.file, managed := "", type }

end LoweringContext

end Bindery

import Bindery.Managed.Descriptor

/-!
# Wrappers

The managed counterpart of a native function: its parameters and results, and the
arguments with which it calls the native function.
-/

namespace Bindery

open Native (Identity)

structure Parameter where
  name : String
  type : Descriptor
  /-- Outputs are returned, not passed in. -/
  isOutput : Bool
  deriving Repr, Inhabited

structure CallArgument where
  native : String
  managed : String
  type : Descriptor
  deriving Repr, Inhabited

structure Wrapper where
  id : Identity
  native : String
  file : Identity
  managed : String
  receiver : Option Parameter
  parameters : List Parameter
  arguments : List CallArgument
  result : Option Parameter
  deriving Repr, Inhabited

namespace Wrapper

def inputs (w : Wrapper) : List Parameter := w.parameters.filter (!·.isOutput)

/-- Output parameters, then the result. -/
def outputs (w : Wrapper) : List Parameter := w.parameters.filter (·.isOutput) ++ w.result.toList

/-- Turns the first parameter into the receiver of a method. -/
def promote (w : Wrapper) : Wrapper :=
  match w.parameters with
  | [] => w
  | first :: rest => { w with receiver := some first, parameters := rest }

end Wrapper

end Bindery

import Bindery.Callback.Site
import Bindery.Lowering.Wrappers

/-!
# Trampolines

A trampoline is an exported managed function with the signature of a native callback. It
takes the managed function that the user has passed out of the user-data slot and calls
it. A wrapper with a callback site is changed so that it takes that managed function,
passes the trampoline for the function pointer, and its address for the user data.
-/

namespace Bindery

open Native (Identity)

structure Trampoline where
  name : String
  key : String
  functionType : Identity
  /-- One parameter for each of the callback; that of the user data is the managed function. -/
  parameters : List Parameter
  arguments : List CallArgument
  result : Option Parameter
  dataIndex : Nat
  deriving Repr, Inhabited

def withoutSlot (parameters : List Parameter) (slot : Nat) : List Parameter :=
  parameters.eraseIdx slot

def callbackSignature (parameters : List Parameter) (slot : Nat) (result : Option Parameter) :
    Signature :=
  let rest := withoutSlot parameters slot
  { inputs := (rest.filter (!·.isOutput)).map (·.type)
    outputs := (rest.filter (·.isOutput) ++ result.toList).map (·.type) }

namespace Trampoline

def goName (t : Trampoline) : String := t.name ++ "_Go"

def cName (t : Trampoline) : String := t.name ++ "_C"

def dataParameter (t : Trampoline) : Parameter := (t.parameters[t.dataIndex]?).getD default

def signature (t : Trampoline) : Signature :=
  match t.dataParameter.type with
  | .callable inputs outputs => { inputs, outputs }
  | _ => callbackSignature t.parameters t.dataIndex t.result

def callInputs (t : Trampoline) : List Parameter :=
  (withoutSlot t.parameters t.dataIndex).filter (!·.isOutput)

def callOutputs (t : Trampoline) : List Parameter :=
  (withoutSlot t.parameters t.dataIndex).filter (·.isOutput) ++ t.result.toList

end Trampoline

/-- A type as the callback sees it, which stores outputs through the pointer it is given. -/
def Descriptor.fromCallback : Descriptor → Descriptor
  | .outPointer target => .callbackOutPointer target
  | d => d

namespace LoweringContext

variable (c : LoweringContext)

/-- Whether the callback has an untyped pointer where the user data should come back. -/
def hasSlot (arguments : List Native.Argument) (slot : Nat) : Except BindingError Bool := do
  match arguments[slot]? with
  | some a => c.document.isVoidPointer a.type
  | none => pure false

def buildTrampoline (site : CallbackSite) (name : String) : Lowering Trampoline := do
  let f ← c.document.functionType site.functionType
  let slot := site.callbackDataIndex
  let slotFits ← c.hasSlot f.arguments slot
  if !slotFits then
    throw (.invalidCallback name (.notVoidPointer slot))
  let (parameters, arguments) ← c.lowerArguments ("callback '" ++ name ++ "'") f.arguments
  let parameters := parameters.map fun p => { p with type := p.type.fromCallback }
  let arguments := arguments.map fun a => { a with type := a.type.fromCallback }
  let result := resultParameter (← c.resolveReturn f.returns) parameters
  let callable := (callbackSignature parameters slot result).descriptor
  let key ← site.signatureKey c.document
  pure {
    name, key, functionType := site.functionType, result, dataIndex := slot
    parameters := parameters.modify slot fun p => { p with type := callable, isOutput := false }
    arguments := arguments.modify slot fun a => { a with type := callable } }

end LoweringContext

def Wrapper.attach (w : Wrapper) (site : CallbackSite) (t : Trampoline) : Wrapper :=
  let callable := t.signature.descriptor
  let name := ((w.parameters[site.argIndex]?).getD default).name
  let parameters := w.parameters.modify site.argIndex fun p =>
    { p with type := callable, isOutput := false }
  let arguments := w.arguments.modify site.argIndex fun a => { a with managed := "C." ++ t.cName }
  let arguments := arguments.modify site.dataIndex fun a =>
    { a with managed := name, type := callable }
  { w with parameters := parameters.eraseIdx site.dataIndex, arguments }

end Bindery

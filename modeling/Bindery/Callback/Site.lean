import Bindery.Lowering.Error
import Bindery.Name.Filter
import Bindery.Native.Encoder
import Bindery.Native.Query

/-!
# Callback sites

A native function that takes a function pointer followed by an untyped pointer has a
callback site if the function type has an untyped pointer of its own, through which the
user data comes back. A hint in the document names the pair outright.
-/

namespace Bindery

open Native (Identity Document DocumentError)

structure CallbackSite where
  argIndex : Nat
  dataIndex : Nat
  callbackDataIndex : Nat
  functionType : Identity
  typedefName : Option String
  deriving DecidableEq, Repr, Inhabited

namespace CallbackSite

variable (d : Document)

def ofHint (f : Native.Function) (h : Native.CallbackHint) : Except BindingError CallbackSite := do
  let invalid (why : CallbackFault) : BindingError := .invalidCallback f.name why
  if f.arguments.length ≤ h.dataIndex || h.dataIndex == h.argIndex then
    throw (invalid (.dataIndex h.dataIndex))
  match f.arguments[h.argIndex]? with
  | none => throw (invalid (.noArgument h.argIndex))
  | some a =>
    match ← d.functionPointer? a.type with
    | none => throw (invalid (.notFunctionPointer h.argIndex))
    | some (functionType, typedefName) =>
      pure { argIndex := h.argIndex, dataIndex := h.dataIndex
             callbackDataIndex := h.callbackDataIndex, functionType, typedefName }

def firstVoidPointer? (index : Nat) : List Native.Argument → Except DocumentError (Option Nat)
  | [] => pure none
  | a :: rest => do
    if ← d.isVoidPointer a.type then pure (some index) else firstVoidPointer? (index + 1) rest

def ofPair? (index : Nat) (a b : Native.Argument) : Except DocumentError (Option CallbackSite) := do
  match ← d.functionPointer? a.type with
  | none => pure none
  | some (functionType, typedefName) =>
    if ← d.isVoidPointer b.type then
      let f ← d.functionType functionType
      let slot ← firstVoidPointer? d 0 f.arguments
      pure (slot.map fun callbackDataIndex =>
        { argIndex := index, dataIndex := index + 1, callbackDataIndex, functionType, typedefName })
    else pure none

def firstPair? (index : Nat) : List Native.Argument → Except DocumentError (Option CallbackSite)
  | a :: b :: rest => do
    match ← ofPair? d index a b with
    | some site => pure (some site)
    | none => firstPair? (index + 1) (b :: rest)
  | _ => pure none

/-- The callback site of a function, if it has one. A hint comes before any other pair. -/
def detect (f : Native.Function) : Except BindingError (Option CallbackSite) := do
  match f.callback with
  | some h => pure (some (← ofHint d f h))
  | none => firstPair? d 0 f.arguments

def trampolineName (filter : NameFilter) (site : CallbackSite) (function : String) : String :=
  lowerCamel (filter.upperName (site.typedefName.getD function)) ++ "Callback"

def kindLabel : Native.PointerKind → String
  | .unset => "Unset"
  | .plain => "Plain"
  | .array => "Array"
  | .arrayArray => "ArrayArray"
  | .string => "String"
  | .stringArray => "StringArray"
  | .output => "Return"
  | .reference => "Reference"
  | .typedef => "Typedef"

/-- What makes two callbacks alike: the C spellings and pointer kinds of their parameters
and result, and the place of the user data. Sites with one key share a trampoline. -/
def signatureKey (site : CallbackSite) : Except DocumentError String := do
  let f ← d.functionType site.functionType
  let parameters ← f.arguments.mapM fun a => do
    pure ((← d.cSpelling a.type) ++ ":" ++ kindLabel a.kind)
  let result ← d.cSpelling f.returns
  pure (result ++ "(" ++ ",".intercalate parameters ++ ")@" ++ toString site.callbackDataIndex)

end CallbackSite

end Bindery

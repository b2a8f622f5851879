import Bindery.Native.Document
import Bindery.Native.Fundamental

/-!
# Descriptors

How a native type appears in the generated package. Structs, unions, enumerations and
typedefs are declared there; a descriptor refers to them by identity.
-/

namespace Bindery

open Native (Identity NumberClass)

/-- How a value crosses the boundary between the two languages. -/
inductive Strategy where
  | cast
  | pointerReinterpret
  /-- By reading the memory of the value as the other type; the sizes must agree. -/
  | valueReinterpret
  | special
  deriving DecidableEq, Repr, Inhabited

inductive Descriptor where
  /-- No value: a result that is not there, or what an untyped pointer points to. -/
  | void
  | number (managed native : String) (size : Nat)
  | boolean (native : String) (size : Nat)
  | array (elem : Descriptor) (length : Nat)
  /-- Pointer to the first element of an array of the caller. -/
  | slice (elem : Descriptor)
  | sliceOfSlice (elem : Descriptor)
  | string
  | stringArray
  | pointer (target : Descriptor)
  /-- Address of a result. -/
  | outPointer (target : Descriptor)
  /-- Address of a result, seen by the callback that provides it. -/
  | callbackOutPointer (target : Descriptor)
  /-- A managed function that travels through a user-data pointer. -/
  | callable (inputs outputs : List Descriptor)
  | opaqueFunction
  | declared (id : Identity)
  deriving Repr, Inhabited

structure Signature where
  inputs : List Descriptor
  outputs : List Descriptor

namespace Signature

def descriptor (s : Signature) : Descriptor := .callable s.inputs s.outputs

end Signature

namespace Descriptor

def isVoid : Descriptor → Bool
  | void => true
  | _ => false

def pointee? : Descriptor → Option Descriptor
  | pointer target => some target
  | _ => none

end Descriptor

def managedNumber? : NumberClass → Nat → Option String
  | .signed, 8 => some "int8"
  | .unsigned, 8 => some "byte"
  | .signed, 16 => some "int16"
  | .unsigned, 16 => some "uint16"
  | .signed, 32 => some "int32"
  | .unsigned, 32 => some "uint32"
  | .signed, 64 => some "int64"
  | .unsigned, 64 => some "uint64"
  | .float, 32 => some "float32"
  | .float, 64 => some "float64"
  | .complex, 64 => some "complex64"
  | .complex, 128 => some "complex128"
  | _, _ => none

end Bindery

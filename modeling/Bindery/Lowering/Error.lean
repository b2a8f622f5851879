import Bindery.Native.Error

/-!
# Faults of binding generation

Why a document cannot be bound as a configuration asks. Nothing here is recovered from: a
construct without a safe representation stops the generation.
-/

namespace Bindery

open Native (Identity DocumentError)

inductive Unsupported where
  | unknownFundamental (name : String)
  | noNumberType (name : String) (size : Nat)
  | enumerationSize (size : Nat)
  | nodeKind
  deriving DecidableEq, Repr

def Unsupported.describe : Unsupported → String
  | unknownFundamental name => "unknown fundamental type '" ++ name ++ "'"
  | noNumberType name size =>
    "'" ++ name ++ "' of " ++ toString size ++ " bytes has no managed number type"
  | enumerationSize size => "enumeration of " ++ toString size ++ " bytes"
  | nodeKind => "no lowering for this node kind"

inductive CallbackFault where
  | dataIndex (index : Nat)
  | noArgument (index : Nat)
  | notFunctionPointer (index : Nat)
  | notVoidPointer (index : Nat)
  deriving DecidableEq, Repr

def CallbackFault.describe : CallbackFault → String
  | dataIndex index => "bad user-data index " ++ toString index
  | noArgument index => "no argument " ++ toString index
  | notFunctionPointer index => "argument " ++ toString index ++ " is not a function pointer"
  | notVoidPointer index => "callback parameter " ++ toString index ++ " is not a void pointer"

inductive BindingError where
  | unsupportedType (id : Identity) (why : Unsupported)
  | voidValue (place : String)
  | invalidPattern (package : String)
  | invalidCallback (function : String) (why : CallbackFault)
  | unknownInclude (package included : String)
  | includeCycle (package : String)
  | unknownPackage (package : String)
  | duplicatePackage (package : String)
  | document (e : DocumentError)
  deriving DecidableEq, Repr

namespace BindingError

def message : BindingError → String
  | unsupportedType id why => "unsupported native type '" ++ id ++ "': " ++ why.describe
  | voidValue place => "void used as a value in " ++ place
  | invalidPattern package => "invalid name pattern for package '" ++ package ++ "'"
  | invalidCallback function why =>
    "invalid callback in function '" ++ function ++ "': " ++ why.describe
  | unknownInclude package included =>
    "package '" ++ package ++ "' includes unknown package '" ++ included ++ "'"
  | includeCycle package => "package inclusion cycle through '" ++ package ++ "'"
  | unknownPackage package => "unknown package '" ++ package ++ "'"
  | duplicatePackage package => "duplicate package '" ++ package ++ "'"
  | document e => e.message

end BindingError

/-- A question about the document that has no answer stops the generation. -/
instance : MonadLift (Except DocumentError) (Except BindingError) where
  monadLift x := x.mapError .document

end Bindery

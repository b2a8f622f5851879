import Bindery.Native.Document

/-!
# Faults of declaration documents

Why a document is refused, or a question about it has no answer.
-/

namespace Bindery.Native

inductive Place where
  | lookup
  | type (id : Identity)
  | function (name : String)
  | global (name : String)
  deriving DecidableEq, Repr

def Place.describe : Place → String
  | lookup => "lookup"
  | type id => "type '" ++ id ++ "'"
  | function name => "function '" ++ name ++ "'"
  | global name => "variable '" ++ name ++ "'"

inductive DocumentError where
  | malformed
  | unreadable
  | unknownType (id : Identity) (place : Place)
  | unknownFile (id : Identity) (place : Place)
  | duplicateFunction (id : Identity)
  | callbackIndices (function : String) (argIndex dataIndex arity : Nat)
  | notFunctionType (id : Identity) (kind : String)
  | endlessTypedef (id : Identity)
  | endlessType (id : Identity)
  deriving DecidableEq, Repr

namespace DocumentError

def invalid (detail : String) : String := "invalid declaration document: " ++ detail

def message : DocumentError → String
  | malformed => "JSON parse error"
  | unreadable => "I/O error"
  | unknownType id place =>
    "unknown type identity '" ++ id ++ "' referenced from " ++ place.describe
  | unknownFile id place =>
    "unknown file identity '" ++ id ++ "' referenced from " ++ place.describe
  | duplicateFunction id => invalid ("duplicate function identity '" ++ id ++ "'")
  | callbackIndices function argIndex dataIndex arity =>
    invalid ("function '" ++ function ++ "' has callback indices (" ++ toString argIndex ++ ", "
      ++ toString dataIndex ++ ") outside its " ++ toString arity ++ " arguments")
  | notFunctionType id kind =>
    invalid ("'" ++ id ++ "' is a " ++ kind ++ ", expected a function type")
  | endlessTypedef id => "typedef chain starting at '" ++ id ++ "' does not terminate"
  | endlessType id => "type '" ++ id ++ "' contains itself"

end DocumentError

end Bindery.Native

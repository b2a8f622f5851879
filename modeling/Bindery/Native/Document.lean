import Bindery.Dict

/-!
# Declaration documents

What an extractor says about the headers of a C library: its files, its type nodes,
its functions and its global variables. Type nodes refer to each other by identity.
-/

namespace Bindery.Native

abbrev Identity := String

/-- What a pointer argument stands for, as the extractor or its user has classified it. -/
inductive PointerKind where
  | unset
  | plain
  | array
  | arrayArray
  | string
  | stringArray
  | output
  | reference
  | typedef
  deriving DecidableEq, Repr, Inhabited

structure SourceFile where
  id : Identity
  name : String
  deriving DecidableEq, Repr

structure Enumerator where
  name : String
  value : Int
  deriving DecidableEq, Repr

structure Enumeration where
  name : String
  file : Identity
  size : Nat
  values : List Enumerator
  deriving DecidableEq, Repr

structure Field where
  name : String
  type : Identity
  deriving DecidableEq, Repr

structure Composite where
  name : String
  file : Identity
  size : Nat
  fields : List Field
  deriving DecidableEq, Repr

structure Typedef where
  name : String
  file : Identity
  base : Identity
  /-- The first node behind the typedef that is neither a typedef nor qualified. -/
  root : Option Identity
  size : Nat
  deriving DecidableEq, Repr

structure Argument where
  name : String
  type : Identity
  kind : PointerKind
  deriving DecidableEq, Repr

structure FunctionType where
  returns : Identity
  arguments : List Argument
  deriving DecidableEq, Repr

inductive TypeNode where
  | fundamental (name : String) (size : Nat)
  | enumeration (e : Enumeration)
  | array (element : Identity) (length size : Nat)
  | struct (c : Composite)
  | union (c : Composite)
  | pointer (pointee : Identity) (size : Nat)
  | typedef (t : Typedef)
  | function (f : FunctionType)
  | qualified (base : Identity)
  | unimplemented (name : String)
  | unsupported
  deriving DecidableEq, Repr

/-- An argument pair marked as a callback with its user data. -/
structure CallbackHint where
  argIndex : Nat
  dataIndex : Nat
  callbackDataIndex : Nat
  deriving DecidableEq, Repr

structure Function where
  id : Identity
  name : String
  file : Identity
  returns : Identity
  arguments : List Argument
  variadic : Bool
  callback : Option CallbackHint
  deriving DecidableEq, Repr

structure Variable where
  id : Identity
  name : String
  file : Identity
  type : Identity
  deriving DecidableEq, Repr

structure Document where
  files : List SourceFile := []
  types : Dict TypeNode := {}
  functions : List Function := []
  globals : List Variable := []
  deriving Inhabited

/-! ## Type nodes -/

namespace TypeNode

def name? : TypeNode → Option String
  | fundamental name _ => some name
  | enumeration e => some e.name
  | struct c => some c.name
  | union c => some c.name
  | typedef t => some t.name
  | _ => none

def file? : TypeNode → Option Identity
  | enumeration e => some e.file
  | struct c => some c.file
  | union c => some c.file
  | typedef t => some t.file
  | _ => none

def kindName : TypeNode → String
  | fundamental .. => "fundamental"
  | enumeration _ => "enumeration"
  | array .. => "array"
  | struct _ => "struct"
  | union _ => "union"
  | pointer .. => "pointer"
  | typedef _ => "typedef"
  | function _ => "function_type"
  | qualified _ => "cv_qualified"
  | unimplemented _ => "unimplemented"
  | unsupported => "unsupported"

def size : TypeNode → Nat
  | fundamental _ size => size
  | enumeration e => e.size
  | array _ _ size => size
  | struct c => c.size
  | union c => c.size
  | pointer _ size => size
  | typedef t => t.size
  | _ => 0

def underlying? : TypeNode → Option Identity
  | typedef t => some t.base
  | qualified base => some base
  | _ => none

def unqualified? : TypeNode → Option Identity
  | qualified base => some base
  | _ => none

end TypeNode

end Bindery.Native

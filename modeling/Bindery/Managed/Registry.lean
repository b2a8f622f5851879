import Bindery.Managed.Wrapper
import Bindery.Name.Scope

/-!
# Declarations and their registry

A declaration is a struct, union, enumeration or typedef that may be declared in the
generated package. The registry keeps at most one for each native identity.
-/

namespace Bindery

open Native (Identity)

structure Member where
  native : String
  managed : String
  type : Descriptor
  size : Nat
  deriving Repr, Inhabited

structure Constant where
  id : Identity
  native : String
  managed : String
  value : Int
  deriving Repr, Inhabited

/-- What a declaration declares. Members are absent until they are populated. -/
inductive Shape where
  | struct (members : Option (List Member))
  | union (members : Option (List Member))
  | enumeration (base : String) (values : List Constant)
  /-- A typedef with the type it stands for, its root, and how its values cross. -/
  | synonym (literal : Descriptor) (root : Identity) (strategy : Strategy)
  deriving Repr, Inhabited

structure Declaration where
  id : Identity
  native : String
  file : Identity
  /-- Empty until a name is assigned; one that stays empty is not exported. -/
  managed : String := ""
  size : Nat
  shape : Shape
  methods : List Wrapper := []
  /-- The names of members and methods, which share one scope. -/
  scope : Scope := {}
  /-- Whether it is used by itself, and not only as what a typedef stands for. -/
  standalone : Bool := false
  supersededBy : Option Identity := none
  /-- The identity in whose place a synonym is declared. -/
  assumed : Option Identity := none
  deriving Repr, Inhabited

namespace Declaration

/-- The identity under which the package names the declaration. -/
def namingKey (d : Declaration) : Identity := d.assumed.getD d.id

def kindName (d : Declaration) : String :=
  match d.shape with
  | .struct _ => "struct"
  | .union _ => "union"
  | .enumeration .. => "enum"
  | .synonym .. => "alias"

/-- Whether a name belongs to another package. -/
def isQualified (name : String) : Bool := name.toList.contains '.'

def isEmitted (d : Declaration) : Bool :=
  d.standalone && !d.managed.isEmpty && !isQualified d.managed && d.supersededBy.isNone

def isPending (d : Declaration) : Bool :=
  match d.shape with
  | .struct none => true
  | .union none => true
  | _ => false

def members (d : Declaration) : List Member :=
  match d.shape with
  | .struct (some members) => members
  | .union (some members) => members
  | _ => []

def isEnumeration (d : Declaration) : Bool :=
  match d.shape with
  | .enumeration .. => true
  | _ => false

def populate (d : Declaration) (members : List Member) : Declaration :=
  match d.shape with
  | .struct _ => { d with shape := .struct (some members) }
  | .union _ => { d with shape := .union (some members) }
  | _ => d

/-- The native integer of an enumeration without a name. -/
def nativeInteger : (size : Nat) → String
  | 1 => "C.schar"
  | 2 => "C.short"
  | 8 => "C.longlong"
  | _ => "C.int"

def byteBlock (d : Declaration) : String := "[" ++ toString d.size ++ "]byte"

def nativeName (d : Declaration) : String :=
  match d.shape with
  | .struct _ =>
    if d.native == "__va_list_tag" then "_Ctype_struct___va_list_tag"
    else if d.native.isEmpty then d.byteBlock
    else "C.struct_" ++ d.native
  | .union _ => if d.native.isEmpty then d.byteBlock else "C.union_" ++ d.native
  | .enumeration .. => if d.native.isEmpty then nativeInteger d.size else "C.enum_" ++ d.native
  | .synonym .. => "C." ++ d.native

end Declaration

abbrev Registry := Dict Declaration

namespace Registry

def add (r : Registry) (d : Declaration) : Bool × Registry :=
  if r.contains d.id then (false, r) else (true, r.insert d.id d)

/-- The declaration that stands for an identity: the synonym in its place once that has a
name, else its own. -/
def target? (r : Registry) (id : Identity) : Option Declaration := do
  let d ← r.get? id
  match d.supersededBy.bind r.get? with
  | some synonym => pure (if synonym.managed.isEmpty then d else synonym)
  | none => pure d

def isNamed (r : Registry) (id : Identity) : Bool := (r.target? id).any (!·.managed.isEmpty)

end Registry

end Bindery

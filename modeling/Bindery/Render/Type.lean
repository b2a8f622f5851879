import Bindery.Emission
import Bindery.Managed.Literal
import Bindery.Render.Function

/-!
# Source of types

A declared type is followed by its constants, the views of a union's members over its
bytes, and its methods. One `init` function asserts the sizes of all types whose values
are reinterpreted.
-/

namespace Bindery

namespace Declaration

variable (d : Declaration) (r : Registry)

def constantLines : List String :=
  let values := d.constants r
  let named := (values.zip (enumLiterals (values.map (·.value)))).filter (!·.1.managed.isEmpty)
  if named.isEmpty then []
  else
    "const (" :: named.map (fun (v, text) => "\t" ++ v.managed ++ " " ++ d.managed ++ " = " ++ text)
      ++ [")", ""]

/-- The members of a union, its own or those of one that a synonym is defined as. -/
def unionMembers : List Member :=
  match d.shape with
  | .union _ => d.members
  | .synonym (.declared id) .. =>
    match r.get? id with
    | some l =>
      match l.shape with
      | .union _ => if l.isEmitted then [] else l.members
      | _ => []
    | none => []
  | _ => []

/-- The view of a member: its value if that is no wider than a pointer, else its address. -/
def accessorLines (pointerWidth : Nat) (m : Member) : List String :=
  let type := m.type.managedName r
  let heading := "func (u *" ++ d.managed ++ ") " ++ m.managed ++ "() "
  let view := "(*" ++ type ++ ")(unsafe.Pointer(u))"
  if m.size ≤ pointerWidth then
    [heading ++ type ++ " \x7b", "\treturn *" ++ view, "\x7d", ""]
  else
    [heading ++ "*" ++ type ++ " \x7b", "\treturn " ++ view, "\x7d", ""]

def lines (pointerWidth : Nat) : List String :=
  ["// " ++ d.managed ++ " wraps " ++ d.nativeName ++ ".",
   "type " ++ d.managed ++ " " ++ d.definition r, ""]
    ++ d.constantLines r
    ++ (d.unionMembers r).flatMap (d.accessorLines r pointerWidth)
    ++ d.sortedMethods.flatMap (·.lines r)

/-! ## Sizes -/

def isEmptyStructWithin : (depth : Nat) → Declaration → Bool
  | 0, _ => false
  | depth + 1, d =>
    match d.shape with
    | .struct _ => d.members.isEmpty
    | .synonym (.declared id) .. =>
      match r.get? id with
      | some l => !l.isEmitted && isEmptyStructWithin depth l
      | none => false
    | _ => false

def isEmptyStruct : Bool := d.isEmptyStructWithin r (r.size + 1)

/-- Whether the sizes of the two representations can be compared and must agree. -/
def needsSizeCheck : Bool :=
  (Descriptor.declared d.id).strategy r == .valueReinterpret && d.size != 0 && !d.isEmptyStruct r

def sizeCheckLines : List String :=
  ["\tif unsafe.Sizeof(*new(" ++ d.nativeName ++ ")) != unsafe.Sizeof(*new("
      ++ d.managed ++ ")) \x7b",
   "\t\tpanic(\"cbridge: size of " ++ d.managed ++ " does not match " ++ d.nativeName ++ "\")",
   "\t\x7d"]

end Declaration

def sizeCheckLines (types : List Declaration) (r : Registry) : List String :=
  let checked := types.filter (·.needsSizeCheck r)
  if checked.isEmpty then []
  else "func init() \x7b" :: checked.flatMap (·.sizeCheckLines) ++ ["\x7d", ""]

end Bindery

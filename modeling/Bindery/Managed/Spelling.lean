import Bindery.Managed.Registry

/-!
# Spelling of types

How descriptors and declarations are written in Go, on the managed side and on the native
side. A type that has no name is written as its bytes, its integer, or an opaque handle.
A synonym without a name is written as what it stands for; the chain of such synonyms is no
longer than the registry, which bounds the recursion.
-/

namespace Bindery

open Native (Identity)

/-! ## Descriptors over given spellings of references -/

namespace Descriptor

mutual

/-- The managed spelling, where `named` tells which references have a name and `refer`
spells them. -/
def spell (named : Identity → Bool) (refer : Identity → String) : Descriptor → String
  | .void => ""
  | .number managed .. => managed
  | .boolean .. => "bool"
  | .array elem length => "[" ++ toString length ++ "]" ++ elem.spell named refer
  | .slice elem => "[]" ++ elem.spell named refer
  | .sliceOfSlice elem => "[][]" ++ elem.spell named refer
  | .string => "string"
  | .stringArray => "[]string"
  | .pointer target =>
    match target with
    | .void => "unsafe.Pointer"
    | .opaqueFunction => "uintptr"
    | .declared id => if named id then "*" ++ refer id else "uintptr"
    | target => "*" ++ target.spell named refer
  | .outPointer target => target.spell named refer
  | .callbackOutPointer target => target.spell named refer
  | .callable inputs outputs =>
    let results := match outputs with
      | [] => ""
      | [output] => " " ++ output.spell named refer
      | outputs => " (" ++ ", ".intercalate (spellAll named refer outputs) ++ ")"
    "func(" ++ ", ".intercalate (spellAll named refer inputs) ++ ")" ++ results
  | .opaqueFunction => "[0]byte"
  | .declared id => refer id

def spellAll (named : Identity → Bool) (refer : Identity → String) : List Descriptor → List String
  | [] => []
  | d :: ds => d.spell named refer :: spellAll named refer ds

end

end Descriptor

/-! ## References -/

namespace Registry

/-- The managed spelling of a reference, through at most `depth` synonyms without a name. -/
def referWithin (r : Registry) : (depth : Nat) → Identity → String
  | 0, _ => ""
  | depth + 1, id =>
    match r.target? id with
    | none => ""
    | some d =>
      if !d.managed.isEmpty then d.managed
      else
        match d.shape with
        | .enumeration base _ => base
        | .synonym literal _ .cast => literal.spell r.isNamed (referWithin r depth)
        | .synonym _ _ .pointerReinterpret => "uintptr"
        | _ => d.byteBlock

def managedName (r : Registry) (id : Identity) : String := r.referWithin (r.size + 1) id

end Registry

/-! ## Descriptors -/

namespace Descriptor

def managedName (r : Registry) (d : Descriptor) : String := d.spell r.isNamed r.managedName

def nativeName (r : Registry) : Descriptor → String
  | .void => ""
  | .number _ native _ => native
  | .boolean native _ => native
  | .array elem length => "[" ++ toString length ++ "]" ++ elem.nativeName r
  | .slice elem => "*" ++ elem.nativeName r
  | .sliceOfSlice elem => "**" ++ elem.nativeName r
  | .string => "*C.char"
  | .stringArray => "**C.char"
  | .pointer target => pointerTo target (target.nativeName r)
  | .outPointer target => pointerTo target (target.nativeName r)
  | .callbackOutPointer target => pointerTo target (target.nativeName r)
  | .callable .. => "unsafe.Pointer"
  | .opaqueFunction => "[0]byte"
  | .declared id => ((r.get? id).map Declaration.nativeName).getD ""
where
  pointerTo (target : Descriptor) (name : String) : String :=
    if target.isVoid then "unsafe.Pointer" else "*" ++ name

def size (r : Registry) (pointerWidth : Nat) : Descriptor → Nat
  | .void => 0
  | .opaqueFunction => 0
  | .number _ _ size => size
  | .boolean _ size => size
  | .array elem length => elem.size r pointerWidth * length
  | .declared id => ((r.get? id).map Declaration.size).getD 0
  | _ => pointerWidth

def strategy (r : Registry) : Descriptor → Strategy
  | .number .. => .cast
  | .array .. => .valueReinterpret
  | .opaqueFunction => .valueReinterpret
  | .pointer target => if target.isVoid then .cast else .pointerReinterpret
  | .declared id =>
    match (r.get? id).map Declaration.shape with
    | some (.enumeration ..) => .cast
    | some (.synonym _ _ strategy) => strategy
    | _ => .valueReinterpret
  | _ => .special

end Descriptor

namespace Signature

def managedName (r : Registry) (s : Signature) : String := s.descriptor.managedName r

end Signature

/-! ## Declarations -/

namespace Declaration

/-- The definition of a declared type, through at most `depth` synonyms that are declared
in full. -/
def definitionWithin (r : Registry) : (depth : Nat) → Declaration → String
  | 0, _ => ""
  | depth + 1, d =>
    match d.shape with
    | .struct _ =>
      if d.members.isEmpty then "struct\x7b\x7d"
      else
        "struct \x7b\n"
          ++ String.join (d.members.map fun m =>
            "\t" ++ m.managed ++ " " ++ m.type.managedName r ++ "\n")
          ++ "\x7d"
    | .union _ => d.byteBlock
    | .enumeration base _ => base
    | .synonym literal .. =>
      match literal with
      | .declared id =>
        match r.get? id with
        | some l => if l.isEmitted then l.managed else definitionWithin r depth l
        | none => ""
      | literal => literal.managedName r

def definition (d : Declaration) (r : Registry) : String := d.definitionWithin r (r.size + 1)

def constantsWithin (r : Registry) : (depth : Nat) → Declaration → List Constant
  | 0, _ => []
  | depth + 1, d =>
    match d.shape with
    | .enumeration _ values => values
    | .synonym (.declared id) .. => ((r.get? id).map (constantsWithin r depth)).getD []
    | _ => []

/-- The enumerators that a declaration carries, its own or those behind a synonym. -/
def constants (d : Declaration) (r : Registry) : List Constant := d.constantsWithin r (r.size + 1)

end Declaration

end Bindery

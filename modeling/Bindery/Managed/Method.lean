import Bindery.Managed.Spelling
import Bindery.Text.Affix

/-!
# Methods

A function whose first parameter points to a declared type becomes a method of it. The
names of methods share the scope of the members of their type, and lose the name of the
type where what is left is still a free exported name.
-/

namespace Bindery

open Native (Identity)

/-- Whether a spelling can be that of a receiver: no name of another package, no array, and
no opaque handle. -/
def isReceiverSpelling (spelling : String) : Bool :=
  !spelling.toList.contains '.' && !spelling.toList.contains '[' && spelling != "uintptr"

/-- Whether methods may be declared on the type. A named pointer type can have none. -/
def Declaration.takesMethods (d : Declaration) : Bool :=
  match d.shape with
  | .synonym _ _ .pointerReinterpret => false
  | _ => true

def Wrapper.receiver? (w : Wrapper) (r : Registry) : Option Identity := do
  let first ← w.parameters.head?
  if first.isOutput then none
  match first.type with
  | .pointer (.declared id) =>
    if !isReceiverSpelling (first.type.managedName r) then none
    let target ← r.target? id
    if target.takesMethods then pure target.id else none
  | _ => none

namespace Declaration

/-- Adds a method under a free form of `candidate`, unless the type has a method of the same
identity. The first result is the name. -/
def addMethod (d : Declaration) (w : Wrapper) (candidate : String) : Option String × Declaration :=
  if d.methods.any (·.id == w.id) then (none, d)
  else
    let (name, scope) := d.scope.resolve w.id candidate
    (some name, { d with scope, methods := d.methods ++ [{ w with managed := name }] })

end Declaration

def shorterName? (typeName name : String) : Option String :=
  withoutStart? typeName name <|> withoutEnd? typeName name

def startsUpper (name : String) : Bool := name.toList.head?.any Char.isUpper

def shortenMethod (typeName : String) (scope : Scope) (m : Wrapper) : Wrapper × Scope :=
  match shorterName? typeName m.managed with
  | some shorter =>
    if startsUpper shorter && !scope.hasName shorter then
      match scope.rename m.id shorter with
      | (true, scope) => ({ m with managed := shorter }, scope)
      | (false, scope) => (m, scope)
    else (m, scope)
  | none => (m, scope)

def shortenMethods (typeName : String) (scope : Scope) : List Wrapper → List Wrapper × Scope
  | [] => ([], scope)
  | m :: rest =>
    let (m, scope) := shortenMethod typeName scope m
    let (rest, scope) := shortenMethods typeName scope rest
    (m :: rest, scope)

/-- Drops the name of the type from the names of its methods where that leaves a free
exported name. -/
def Declaration.shortenMethodNames (d : Declaration) : Declaration :=
  if d.managed.isEmpty then d
  else
    let (methods, scope) := shortenMethods d.managed d.scope d.methods
    { d with methods, scope }

end Bindery

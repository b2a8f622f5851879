import Bindery.Lowering.Types
import Bindery.Name.Casing

/-!
# Members of structs and unions

A struct or union enters the registry without members. Populating gives every such
declaration its members, which may add declarations that wait for theirs, and goes on
until none waits. Each pass settles a node of the document that no later pass meets, so
there are at most as many passes as nodes.
-/

namespace Bindery.LoweringContext

open Native (Identity Field)

variable (c : LoweringContext)

def nativeFields (id : Identity) : Except BindingError (List Field) := do
  match ← c.document.node id with
  | .struct s => pure s.fields
  | .union s => pure s.fields
  | _ => pure []

def memberKey (id : Identity) (index : Nat) : Identity := id ++ "." ++ toString index

/-- The exported form of a member name, or the position of a member without one. -/
def memberCandidate (index : Nat) (native : String) : String :=
  if native.isEmpty then "Field" ++ toString index else upperName native

def nameMember (id : Identity) (index : Nat) (candidate : String) : Lowering String := do
  match (← get).get? id with
  | none => pure candidate
  | some d =>
    let (name, scope) := d.scope.resolve (memberKey id index) candidate
    modify fun r => r.modify id fun d => { d with scope }
    pure name

def lowerField (id : Identity) (index : Nat) (f : Field) : Lowering Member := do
  let type ← c.value f.type ("field '" ++ f.name ++ "' of '" ++ id ++ "'")
  let managed ← nameMember id index (memberCandidate index f.name)
  pure { native := f.name, managed, type, size := type.size (← get) c.rules.pointerWidth }

def populateOne (id : Identity) : Lowering Unit := do
  let fields ← c.nativeFields id
  let members ← fields.zipIdx.mapM fun (f, index) => c.lowerField id index f
  modify fun r => r.modify id (·.populate members)

def pending (r : Registry) : List Identity := (r.values.filter (·.isPending)).map (·.id)

def populateWithin : (limit : Nat) → Lowering Nat
  | 0 => pure 0
  | limit + 1 => do
    let ids := pending (← get)
    if ids.isEmpty then
      return 0
    ids.forM c.populateOne
    return (← populateWithin limit) + 1

/-- Gives all declarations their members; the result is the number of passes. -/
def populate : Lowering Nat := c.populateWithin c.document.types.size

end Bindery.LoweringContext

import Bindery.Package.Basic

/-!
# Supersession

An exported typedef of a struct or union with the same name, or with none, is declared in
its place, and so is an exported typedef of an enumeration. Of several such typedefs the
first in the order of identities takes the place.
-/

namespace Bindery

open Native (Identity)

structure Takeover where
  synonym : Identity
  literal : Identity
  /-- Whether the synonym also takes over the identity, which it does from a struct or union. -/
  assumes : Bool
  deriving DecidableEq, Repr

/-- Whether a typedef of the given native name is no more than a name for the declaration. -/
def Declaration.passesTo (d : Declaration) (synonymName : String) : Bool :=
  match d.shape with
  | .struct _ => d.native.isEmpty || d.native == synonymName
  | .union _ => d.native.isEmpty || d.native == synonymName
  | .enumeration .. => true
  | .synonym .. => false

namespace Package

def takeover? (p : Package) (r : Registry) (synonym : Declaration) : Option Takeover := do
  match synonym.shape with
  | .synonym (.declared id) .. =>
    let literal ← r.get? id
    if synonym.standalone && p.exports synonym.native synonym.file
        && literal.passesTo synonym.native && literal.supersededBy.isNone then
      pure { synonym := synonym.id, literal := id, assumes := !literal.isEnumeration }
    else none
  | _ => none

end Package

/-- Carries out one takeover, unless another synonym has come first. The synonym gets the scope
of a struct or union, so that methods and members keep apart. -/
def Registry.take (r : Registry) (t : Takeover) : Registry :=
  match r.get? t.literal with
  | none => r
  | some literal =>
    if literal.supersededBy.isSome then r
    else
      let r := r.modify t.literal fun d => { d with supersededBy := some t.synonym }
      if t.assumes then
        r.modify t.synonym fun d => { d with scope := literal.scope, assumed := some t.literal }
      else r

def Package.supersede (p : Package) (r : Registry) : Registry :=
  (r.values.filterMap (p.takeover? r)).foldl Registry.take r

end Bindery

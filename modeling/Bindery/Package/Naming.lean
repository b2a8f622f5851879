import Bindery.Package.Basic

/-!
# Naming within a package

Types, enumerators, functions and variables get their names one after the other out of
the one scope of the package. A type that the package does not export takes the qualified
name of an included package, if one declares it.
-/

namespace Bindery

open Native (Identity)

namespace Package

def candidate (p : Package) (native : String) : String := p.filter.upperName native

/-! ## Types -/

/-- The name of a type in the first of the packages that declares it, with its qualifier. -/
def qualifiedName (included : List Package) (id : Identity) : String :=
  (included.findSome? fun q => (q.globalName? id).map fun name => q.name ++ "." ++ name).getD ""

def nameType (p : Package) (included : List Package) (d : Declaration) (scope : Scope) :
    String × Scope :=
  if p.exports d.native d.file then scope.resolve d.namingKey (p.candidate d.native)
  else (qualifiedName included d.id, scope)

def isNameable (d : Declaration) : Bool :=
  d.standalone && d.supersededBy.isNone && !d.native.isEmpty

def nameTypes (p : Package) (included : List Package) : List Identity → Registry → Scope →
    Registry × Scope
  | [], r, scope => (r, scope)
  | id :: ids, r, scope =>
    match (r.get? id).filter isNameable with
    | some d =>
      let (managed, scope) := p.nameType included d scope
      nameTypes p included ids (r.modify id fun d => { d with managed }) scope
    | none => nameTypes p included ids r scope

/-! ## Enumerators -/

def nameConstants (p : Package) : List Constant → Scope → List Constant × Scope
  | [], scope => ([], scope)
  | v :: values, scope =>
    let (v, scope) :=
      if p.excludes v.native then (v, scope)
      else
        let (managed, scope) := scope.resolve v.id (p.candidate v.native)
        ({ v with managed }, scope)
    let (values, scope) := nameConstants p values scope
    (v :: values, scope)

def nameConstantsOf (p : Package) (d : Declaration) (scope : Scope) : Declaration × Scope :=
  match d.shape with
  | .enumeration base values =>
    let (values, scope) := p.nameConstants values scope
    ({ d with shape := .enumeration base values }, scope)
  | _ => (d, scope)

/-- Names the enumerators of the given declarations that the package declares, itself or as
a synonym. -/
def nameAllConstants (p : Package) : List Identity → Registry → Scope → Registry × Scope
  | [], r, scope => (r, scope)
  | id :: ids, r, scope =>
    match r.get? id with
    | some d =>
      if d.isEnumeration && (r.target? id).any (·.isEmitted) then
        let (d, scope) := p.nameConstantsOf d scope
        nameAllConstants p ids (r.modify id fun _ => d) scope
      else nameAllConstants p ids r scope
    | none => nameAllConstants p ids r scope

/-! ## Functions and variables -/

/-- Makes methods of the functions that can be methods and names the others. -/
def bindFunctions (p : Package) : List Wrapper → Registry → Scope → List Wrapper × Registry × Scope
  | [], r, scope => ([], r, scope)
  | w :: rest, r, scope =>
    match w.receiver? r with
    | some id =>
      let r := r.modify id fun d => (d.addMethod w.promote (p.candidate w.native)).2
      bindFunctions p rest r scope
    | none =>
      let (managed, scope) := scope.resolve w.id (p.candidate w.native)
      let (rest, r, scope) := bindFunctions p rest r scope
      ({ w with managed } :: rest, r, scope)

def nameVariables (p : Package) : List GlobalVariable → Scope → List GlobalVariable × Scope
  | [], scope => ([], scope)
  | v :: rest, scope =>
    let (managed, scope) := scope.resolve v.id (p.candidate v.native)
    let (rest, scope) := nameVariables p rest scope
    ({ v with managed } :: rest, scope)

end Package

end Bindery

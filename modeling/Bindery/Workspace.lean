import Bindery.Package.Preparation

/-!
# Workspaces

All packages of a project over one document. A package is prepared after the packages it
includes, so their order is a depth-first walk along the includes, which must have no cycle.
-/

namespace Bindery

open Native (Document)

structure Workspace where
  document : Document
  packages : List PackageSettings
  pointerWidth : Nat

namespace Workspace

variable (w : Workspace)

def settings? (name : String) : Option PackageSettings := w.packages.find? (·.name == name)

/-! ## Order -/

/-- Refuses a second package of one name; `seen` are the names before. -/
def checkNames (seen : List String) : List PackageSettings → Except BindingError Unit
  | [] => pure ()
  | s :: rest =>
    if seen.contains s.name then throw (.duplicatePackage s.name)
    else checkNames (s.name :: seen) rest

/-- Puts a package into the order, after all that it includes. `path` are the packages on
the way to it, which are different ones, so `depth` need not exceed their number by more
than one. -/
def visit : (depth : Nat) → (path : List String) → (name : String) → (order : List String) →
    Except BindingError (List String)
  | 0, _, name, _ => throw (.includeCycle name)
  | depth + 1, path, name, order =>
    if order.contains name then pure order
    else if path.contains name then throw (.includeCycle name)
    else
      match w.settings? name with
      | none => pure order
      | some s => do
        let order ← s.includes.foldlM (fun order included =>
          if (w.settings? included).isNone then throw (.unknownInclude name included)
          else visit depth (name :: path) included order) order
        pure (order ++ [name])

/-- The package names, each after those of the packages it includes. -/
def order : Except BindingError (List String) := do
  checkNames [] w.packages
  w.packages.foldlM (fun order s => w.visit (w.packages.length + 1) [] s.name order) []

/-! ## Includes -/

/-- The names that can be reached from those in `pending`; `seen` have been found before. -/
def reach : (steps : Nat) → (pending seen : List String) → List String
  | 0, _, seen => seen
  | _ + 1, [], seen => seen
  | steps + 1, name :: pending, seen =>
    let new := (((w.settings? name).map (·.includes)).getD []).filter (!seen.contains ·)
    reach steps (new.eraseDups ++ pending) (new.eraseDups ++ seen)

def includesOf (name : String) : List String :=
  let steps := (w.packages.flatMap fun s => s.includes).length + 1
  (w.reach steps [name] []).filter (· != name)

/-! ## Preparation -/

/-- Prepares packages in the given order; `prepared` are those before. -/
def prepareInOrder : List String → (prepared : List Package) → Except BindingError (List Package)
  | [], prepared => pure prepared
  | name :: rest, prepared =>
    match w.settings? name with
    | none => prepareInOrder rest prepared
    | some s => do
      let p ← Package.ofSettings s w.document w.pointerWidth
      let includes := w.includesOf name
      let p ← p.prepare (prepared.filter fun q => includes.contains q.name)
      prepareInOrder rest (prepared ++ [p])

def prepare : Except BindingError (List Package) := do
  w.prepareInOrder (← w.order) []

def prepareOnly (names : List String) : Except BindingError (List Package) := do
  names.forM fun name =>
    if (w.settings? name).isNone then throw (.unknownPackage name) else pure ()
  let all ← w.prepare
  pure (all.filter fun p => names.contains p.name)

end Workspace

end Bindery
